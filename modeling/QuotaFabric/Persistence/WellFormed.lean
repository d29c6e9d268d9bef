import QuotaFabric.Lib.Walks
import QuotaFabric.Persistence.AllOrNothing

/-!
# What the loader accepts

`deserialize_state` checks a version, the record counts and the string and vector encodings.  It does
not look at ids, references or enumeration values.

* `WellFormed` — the hierarchy is acyclic, references are to records that are there, enumerations
  have declared values;
* `DistinctIds` — no id occurs twice in a list of the file;
* `CheckedBody` — a check of the file alone: distinct ids, references into the file, declared values,
  and parent walks no longer than the list of groups.

Main result: `loaded_state_well_formed_iff` — an accepted file gives a well-formed engine exactly when
it passes that check, which the loader does not make.
-/

set_option autoImplicit false

namespace QuotaFabric

open AList LogParser

/-! ## Declared values -/

def OvercommitMode.declared : OvercommitMode → Bool
  | .undeclared _ => false
  | _ => true

def TenantGroupKind.declared : TenantGroupKind → Bool
  | .undeclared _ => false
  | _ => true

def ReservationStatus.declared : ReservationStatus → Bool
  | .undeclared _ => false
  | _ => true

/-! ## Well-formed engines -/

namespace Engine

/-- The parent of a group. -/
def parentOf (s : Engine) (g : TenantGroupId) : Option TenantGroupId := (s.groups.lookup g).bind (·.parent)

structure WellFormed (s : Engine) : Prop where
  acyclic : Acyclic s.parentOf
  tenantGroup : ∀ t tn g, s.tenants.lookup t = some tn → tn.group = some g → g ∈ s.groups
  groupParent : ∀ g gr p, s.groups.lookup g = some gr → gr.parent = some p → p ∈ s.groups
  reservationTenant : ∀ rid r, s.reservations.lookup rid = some r → r.tenant ∈ s.tenants
  allocationReservation : ∀ aid a, s.allocations.lookup aid = some a → a.active = true →
    a.reservation ∈ s.reservations
  fundingBorrow : ∀ rid f bid, s.funding.lookup rid = some f → bid ∈ f.borrows → bid ∈ s.borrows
  borrowLending : ∀ bid b, s.borrows.lookup bid = some b → b.lending ∈ s.lends
  policyMode : s.policy.overcommit.mode.declared = true
  groupKind : ∀ g gr, s.groups.lookup g = some gr → gr.kind.declared = true
  groupMode : ∀ g gr, s.groups.lookup g = some gr → gr.quota.overcommit.declared = true
  tenantQuotaMode : ∀ t q, s.localQuota.lookup t = some q → q.overcommit.declared = true
  groupQuotaMode : ∀ g q, s.groupQuota.lookup g = some q → q.overcommit.declared = true
  status : ∀ rid r, s.reservations.lookup rid = some r → r.status.declared = true

/-- `ancestor_groups` comes to an end for every tenant. -/
def AncestorsEnd (s : Engine) : Prop :=
  ∀ t tn g, s.tenants.lookup t = some tn → tn.group = some g → ∃ n, walk s.parentOf n g = none

theorem WellFormed.ancestorsEnd {s : Engine} (h : WellFormed s) : AncestorsEnd s := by
  have hdom : ∀ k, s.parentOf k ≠ none → k ∈ s.groups.keys := by
    intro k hk
    by_contra hnot
    have hnone : s.groups.lookup k = none := lookup_eq_none.mpr hnot
    exact hk (by unfold parentOf; rw [hnone]; rfl)
  exact fun _ _ g _ _ => ⟨_, (acyclic_iff_walks_end hdom).mp h.acyclic g⟩

end Engine

/-! ## Well-formed assignments -/

/-- The slots a record refers to. -/
def Stored.refers : Stored → List Slot
  | .group g => g.parent.toList.map .group
  | .tenant t => t.group.toList.map .group
  | .funding _ f => f.borrows.map .borrow
  | .reservation r => [.tenant r.tenant]
  | .allocation a => if a.active then [.reservation a.reservation] else []
  | .borrow b => [.lending b.lending]
  | _ => []

/-- The enumerations of a record have declared values. -/
def Stored.declared : Stored → Bool
  | .overcommitMode mode => mode.declared
  | .group g => g.kind.declared && g.quota.overcommit.declared
  | .tenantQuota q => q.overcommit.declared
  | .groupQuota _ q => q.overcommit.declared
  | .reservation r => r.status.declared
  | _ => true

namespace Engine

/-- What a slot shows is well-formed. -/
def HeldOk (s : Engine) (k : Slot) : Prop :=
  ∀ p, s.held k = some p → p.declared = true ∧ ∀ r ∈ p.refers, s.held r ≠ none

theorem held_ne_none_iff {K V : Type} [DecidableEq K] {m : UMap K V} {f : V → Stored} {k : K} :
    (m.lookup k).map f ≠ none ↔ k ∈ m := by
  rw [ne_eq, Option.map_eq_none_iff, lookup_eq_none, not_not]

/-- **An engine is well-formed exactly when its hierarchy is acyclic and every slot is.** -/
theorem wellFormed_iff {s : Engine} : WellFormed s ↔ Acyclic s.parentOf ∧ ∀ k, HeldOk s k := by
  constructor
  · refine fun h => ⟨h.acyclic, fun k p hp => ?_⟩
    cases k with
    | overcommitMode =>
      cases hp
      exact ⟨h.policyMode, fun r hr => absurd hr List.not_mem_nil⟩
    | group g =>
      obtain ⟨gr, hgr, rfl⟩ := Option.map_eq_some_iff.mp hp
      refine ⟨by simp [Stored.declared, h.groupKind g gr hgr, h.groupMode g gr hgr], fun r hr => ?_⟩
      obtain ⟨p, hp, rfl⟩ := List.mem_map.mp hr
      exact held_ne_none_iff.mpr (h.groupParent g gr p hgr (Option.mem_toList.mp hp))
    | tenant t =>
      obtain ⟨tn, htn, rfl⟩ := Option.map_eq_some_iff.mp hp
      refine ⟨rfl, fun r hr => ?_⟩
      obtain ⟨g, hg, rfl⟩ := List.mem_map.mp hr
      exact held_ne_none_iff.mpr (h.tenantGroup t tn g htn (Option.mem_toList.mp hg))
    | tenantQuota t =>
      obtain ⟨q, hq, rfl⟩ := Option.map_eq_some_iff.mp hp
      exact ⟨h.tenantQuotaMode t q hq, fun r hr => absurd hr List.not_mem_nil⟩
    | groupQuota g =>
      obtain ⟨q, hq, rfl⟩ := Option.map_eq_some_iff.mp hp
      exact ⟨h.groupQuotaMode g q hq, fun r hr => absurd hr List.not_mem_nil⟩
    | funding rid =>
      obtain ⟨f, hf, rfl⟩ := Option.map_eq_some_iff.mp hp
      refine ⟨rfl, fun r hr => ?_⟩
      obtain ⟨bid, hbid, rfl⟩ := List.mem_map.mp hr
      exact held_ne_none_iff.mpr (h.fundingBorrow rid f bid hf hbid)
    | reservation rid =>
      obtain ⟨r, hr, rfl⟩ := Option.map_eq_some_iff.mp hp
      refine ⟨h.status rid r hr, fun k hk => ?_⟩
      rw [List.mem_singleton.mp hk]
      exact held_ne_none_iff.mpr (h.reservationTenant rid r hr)
    | allocation aid =>
      obtain ⟨a, ha, rfl⟩ := Option.map_eq_some_iff.mp hp
      refine ⟨rfl, fun k hk => ?_⟩
      replace hk : k ∈ if a.active then [Slot.reservation a.reservation] else [] := hk
      split at hk
      · rename_i hactive
        rw [List.mem_singleton.mp hk]
        exact held_ne_none_iff.mpr (h.allocationReservation aid a ha hactive)
      · exact absurd hk List.not_mem_nil
    | borrow bid =>
      obtain ⟨b, hb, rfl⟩ := Option.map_eq_some_iff.mp hp
      refine ⟨rfl, fun k hk => ?_⟩
      rw [List.mem_singleton.mp hk]
      exact held_ne_none_iff.mpr (h.borrowLending bid b hb)
    | lending lid =>
      obtain ⟨l, hl, rfl⟩ := Option.map_eq_some_iff.mp hp
      exact ⟨rfl, fun r hr => absurd hr List.not_mem_nil⟩
    | _ =>
      cases hp
      exact ⟨rfl, fun r hr => absurd hr List.not_mem_nil⟩
  · rintro ⟨hacyclic, h⟩
    have hgroup : ∀ g gr, s.groups.lookup g = some gr → s.held (.group g) = some (.group gr) :=
      fun g gr hgr => congrArg (Option.map Stored.group) hgr
    have hreservation : ∀ rid r, s.reservations.lookup rid = some r →
        s.held (.reservation rid) = some (.reservation r) :=
      fun rid r hr => congrArg (Option.map Stored.reservation) hr
    refine ⟨hacyclic, ?_, ?_, ?_, ?_, ?_, ?_, (h .overcommitMode _ rfl).1, ?_, ?_, ?_, ?_, ?_⟩
    · intro t tn g htn hg
      refine held_ne_none_iff.mp ((h (.tenant t) (.tenant tn) (Option.map_eq_some_iff.mpr ⟨_, htn, rfl⟩)).2 (.group g) ?_)
      exact List.mem_map.mpr ⟨g, Option.mem_toList.mpr hg, rfl⟩
    · intro g gr p hgr hp
      refine held_ne_none_iff.mp ((h (.group g) _ (hgroup g gr hgr)).2 (.group p) ?_)
      exact List.mem_map.mpr ⟨p, Option.mem_toList.mpr hp, rfl⟩
    · intro rid r hr
      exact held_ne_none_iff.mp ((h (.reservation rid) _ (hreservation rid r hr)).2 (.tenant r.tenant)
        List.mem_cons_self)
    · intro aid a ha hactive
      refine held_ne_none_iff.mp ((h (.allocation aid) (.allocation a) (Option.map_eq_some_iff.mpr ⟨_, ha, rfl⟩)).2
        (.reservation a.reservation) ?_)
      show Slot.reservation a.reservation ∈ if a.active then [Slot.reservation a.reservation] else []
      rw [if_pos hactive]
      exact List.mem_cons_self
    · intro rid f bid hf hbid
      exact held_ne_none_iff.mp ((h (.funding rid) (.funding rid f) (Option.map_eq_some_iff.mpr ⟨_, hf, rfl⟩)).2 (.borrow bid)
        (List.mem_map.mpr ⟨bid, hbid, rfl⟩))
    · intro bid b hb
      exact held_ne_none_iff.mp ((h (.borrow bid) (.borrow b) (Option.map_eq_some_iff.mpr ⟨_, hb, rfl⟩)).2 (.lending b.lending)
        List.mem_cons_self)
    · intro g gr hgr
      exact (Bool.and_eq_true_iff.mp (h (.group g) _ (hgroup g gr hgr)).1).1
    · intro g gr hgr
      exact (Bool.and_eq_true_iff.mp (h (.group g) _ (hgroup g gr hgr)).1).2
    · intro t q hq
      exact (h (.tenantQuota t) (.tenantQuota q) (Option.map_eq_some_iff.mpr ⟨_, hq, rfl⟩)).1
    · intro g q hq
      exact (h (.groupQuota g) (.groupQuota g q) (Option.map_eq_some_iff.mpr ⟨_, hq, rfl⟩)).1
    · intro rid r hr
      exact (h (.reservation rid) _ (hreservation rid r hr)).1

end Engine

/-! ## Checking a body -/

/-- The slots of the eight lists of a file; a funding comes with its reservation. -/
def Slot.isListed : Slot → Bool
  | .funding _ => false
  | k => k.isRecord

/-- No id occurs twice in a list. -/
def DistinctIds (settings : EngineSettings) (body : Bytes) : Prop :=
  ((((loadState settings).run body).1.map Stored.slot).filter Slot.isListed).Nodup

/-- The ids of the groups in a body. -/
def encodedGroups (settings : EngineSettings) (body : Bytes) : List TenantGroupId :=
  ((loadState settings).run body).1.filterMap fun
    | .group g => some g.id
    | _ => none

/-- The parent a body gives to a group. -/
def encodedParent (settings : EngineSettings) (body : Bytes) (g : TenantGroupId) : Option TenantGroupId :=
  match encoded settings body (.group g) with
  | some (.group gr) => gr.parent
  | _ => none

/-- **The check that the loader does not make**: ids are distinct, enumerations declared, referred ids
    in the body, and no walk from a group to its parents is longer than the list of groups. -/
structure CheckedBody (settings : EngineSettings) (body : Bytes) : Prop where
  distinct : DistinctIds settings body
  declared : ∀ k p, encoded settings body k = some p → p.declared = true
  references : ∀ k p, encoded settings body k = some p → ∀ r ∈ p.refers, encoded settings body r ≠ none
  chains : ∀ g ∈ encodedGroups settings body,
    walk (encodedParent settings body) ((encodedGroups settings body).length + 1) g = none

theorem encodedParent_domain {settings : EngineSettings} {body : Bytes} {g : TenantGroupId}
    (h : encodedParent settings body g ≠ none) : g ∈ encodedGroups settings body := by
  unfold encodedParent at h
  cases henc : encoded settings body (.group g) with
  | none => rw [henc] at h; exact absurd rfl h
  | some p =>
    obtain ⟨hp, hslot⟩ := slot_of_lastWrite henc
    cases p with
    | group gr =>
      cases hslot
      exact List.mem_filterMap.mpr ⟨_, hp, rfl⟩
    | _ => cases hslot

theorem acyclic_encodedParent_iff {settings : EngineSettings} {body : Bytes} :
    Acyclic (encodedParent settings body) ↔ ∀ g ∈ encodedGroups settings body,
      walk (encodedParent settings body) ((encodedGroups settings body).length + 1) g = none := by
  rw [acyclic_iff_walks_end fun _ => encodedParent_domain]
  constructor
  · exact fun h g _ => h g
  · intro h g
    by_cases hg : g ∈ encodedGroups settings body
    · exact h g hg
    · have hnone : encodedParent settings body g = none := by
        by_contra hne
        exact hg (encodedParent_domain hne)
      rw [walk, hnone]
      rfl

namespace Engine

/-! ## The loaded engine -/

/-- A load that succeeds has read a packed body. -/
theorem loadFrom_success {env : Env} {s s' : Engine} {file : FileRead}
    (h : s.loadFrom env file = some (.success, s')) :
    ∃ body, file = .bytes (packBody body) ∧
      s' = (s.storeAll ((loadState s.settings).run body).1).syncAll env := by
  have hrefused : ∀ message, s.refuseLoad message ≠ some (.success, s') := by
    intro message heq
    have hok := congrArg (Option.map fun r => r.1.ok) heq
    cases hok
  cases file with
  | missing => exact absurd h (hrefused _)
  | broken => exact absurd h (hrefused _)
  | bytes blob =>
    by_cases hlen : blob.length < 2 ^ 63
    · have hmeasured : measured blob = blob := if_pos hlen
      unfold loadFrom at h
      simp only [hmeasured] at h
      rcases loadBlob_cases env s hlen with ⟨message, hr⟩ | ⟨-, -, -, -, -, hnone⟩ | ⟨body, rfl⟩
      · rw [hr] at h
        exact absurd h (hrefused _)
      · rw [hnone] at h
        cases h
      · refine ⟨body, rfl, ?_⟩
        rw [length_packBody] at hlen
        rw [loadBlob_packBody env s (by omega)] at h
        unfold deserializeState at h
        simp only at h
        split at h
        · have hok := congrArg (Option.map fun r => r.1.ok) h
          cases hok
        · exact (Prod.mk.inj (Option.some.inj h)).2.symm
    · rw [loadFrom_overlong hlen] at h
      exact absurd h (hrefused _)

section Loaded

variable {settings : EngineSettings} {env : Env} {body : Bytes} {s' : Engine}

theorem refers_isRecord {p : Stored} {r : Slot} (h : r ∈ p.refers) : r.isRecord = true := by
  cases p with
  | group g => obtain ⟨-, -, rfl⟩ := List.mem_map.mp h; rfl
  | tenant t => obtain ⟨-, -, rfl⟩ := List.mem_map.mp h; rfl
  | funding rid f => obtain ⟨-, -, rfl⟩ := List.mem_map.mp h; rfl
  | reservation r => rw [List.mem_singleton.mp h]; rfl
  | allocation a =>
    replace h : r ∈ if a.active then [Slot.reservation a.reservation] else [] := h
    split at h
    · rw [List.mem_singleton.mp h]; rfl
    · exact absurd h List.not_mem_nil
  | borrow b => rw [List.mem_singleton.mp h]; rfl
  | _ => exact absurd h List.not_mem_nil

/-- What a new engine holds in a slot that was not written. -/
theorem held_fresh_ok {k : Slot} {p : Stored} (h : ({ settings := settings } : Engine).held k = some p) :
    k.isRecord = false ∧ p.declared = true ∧ p.refers = [] := by
  cases k with
  | group | tenant | tenantQuota | groupQuota | funding | reservation | allocation | borrow | lending =>
    cases h
  | _ =>
    cases h
    exact ⟨rfl, rfl, rfl⟩

variable (hs' : s' = (({ settings := settings } : Engine).storeAll
  ((loadState settings).run body).1).syncAll env)

include hs'

theorem held_loaded (k : Slot) :
    s'.held k = (encoded settings body k).or (({ settings := settings } : Engine).held k) := by
  rw [hs', held_syncAll, held_storeAll]
  rfl

theorem held_loaded_record {k : Slot} (hk : k.isRecord = true) : s'.held k = encoded settings body k := by
  rw [held_loaded hs']
  cases hfresh : ({ settings := settings } : Engine).held k with
  | none => rw [Option.or_none]
  | some p =>
    rw [(held_fresh_ok hfresh).1] at hk
    cases hk

theorem parentOf_loaded : s'.parentOf = encodedParent settings body := by
  funext g
  have hg := held_loaded_record hs' (k := .group g) rfl
  unfold parentOf encodedParent
  rw [← hg]
  show _ = match (s'.groups.lookup g).map Stored.group with
    | some (.group gr) => gr.parent
    | _ => none
  cases s'.groups.lookup g <;> rfl

theorem heldOk_loaded_iff : (∀ k, HeldOk s' k) ↔
    (∀ k p, encoded settings body k = some p → p.declared = true) ∧
    ∀ k p, encoded settings body k = some p → ∀ r ∈ p.refers, encoded settings body r ≠ none := by
  constructor
  · intro h
    have hstored : ∀ k p, encoded settings body k = some p → s'.held k = some p := by
      intro k p hp
      rw [held_loaded hs', hp]
      rfl
    refine ⟨fun k p hp => (h k p (hstored k p hp)).1, fun k p hp r hr => ?_⟩
    rw [← held_loaded_record hs' (refers_isRecord hr)]
    exact (h k p (hstored k p hp)).2 r hr
  · rintro ⟨hdeclared, hrefers⟩ k p hp
    rw [held_loaded hs', Option.or_eq_some_iff] at hp
    rcases hp with hp | ⟨-, hp⟩
    · refine ⟨hdeclared k p hp, fun r hr => ?_⟩
      rw [held_loaded_record hs' (refers_isRecord hr)]
      exact hrefers k p hp r hr
    · obtain ⟨-, hd, hr⟩ := held_fresh_ok hp
      refine ⟨hd, fun r hmem => ?_⟩
      rw [hr] at hmem
      exact absurd hmem List.not_mem_nil

/-- The engine is well-formed exactly when the body passes the check, up to repeated ids. -/
theorem wellFormed_loaded_iff : WellFormed s' ∧ DistinctIds settings body ↔ CheckedBody settings body := by
  rw [wellFormed_iff, heldOk_loaded_iff hs', parentOf_loaded hs', acyclic_encodedParent_iff]
  constructor
  · rintro ⟨⟨hchains, hdeclared, hrefers⟩, hdistinct⟩
    exact ⟨hdistinct, hdeclared, hrefers, hchains⟩
  · intro h
    exact ⟨⟨h.chains, h.declared, h.references⟩, h.distinct⟩

end Loaded

/-! ## Main result -/

/-- **A file that a new engine accepts gives a well-formed engine exactly when its body passes the
    check**, and then the walk to the ancestors ends for every tenant. -/
theorem loaded_state_well_formed_iff {settings : EngineSettings} {env : Env} {file : FileRead} {s' : Engine}
    (hload : ({ settings := settings } : Engine).loadFrom env file = some (.success, s')) :
    ∃ body, file = .bytes (packBody body) ∧
      (WellFormed s' ∧ AncestorsEnd s' ∧ DistinctIds settings body ↔ CheckedBody settings body) := by
  obtain ⟨body, hfile, hs'⟩ := loadFrom_success hload
  refine ⟨body, hfile, ?_⟩
  rw [← wellFormed_loaded_iff hs']
  constructor
  · rintro ⟨hwell, -, hdistinct⟩
    exact ⟨hwell, hdistinct⟩
  · rintro ⟨hwell, hdistinct⟩
    exact ⟨hwell, hwell.ancestorsEnd, hdistinct⟩

/-- A body passes the check where its records are distinct and declared, and refer to records in it of a
    lower rank. -/
theorem checkedBody_of_ordered {settings : EngineSettings} {body : Bytes} {log : List Stored} (rank : Slot → Nat)
    (hread : ((loadState settings).run body).1 = log)
    (hdistinct : ((log.map Stored.slot).filter Slot.isListed).Nodup)
    (hdeclared : ∀ p ∈ log, p.declared = true)
    (hrefers : ∀ p ∈ log, ∀ r ∈ p.refers, lastWrite Stored.slot log r ≠ none)
    (horder : ∀ p ∈ log, ∀ r ∈ p.refers, rank r < rank p.slot) : CheckedBody settings body := by
  subst hread
  have hmem : ∀ {k p}, encoded settings body k = some p → p ∈ ((loadState settings).run body).1 ∧ p.slot = k :=
    fun hp => slot_of_lastWrite hp
  refine ⟨hdistinct, fun k p hp => hdeclared p (hmem hp).1, fun k p hp => hrefers p (hmem hp).1, ?_⟩
  -- along a chain of parents the rank goes down
  have hstep : ∀ a b, Steps (encodedParent settings body) a b → rank (.group b) < rank (.group a) := by
    intro a b hab
    unfold Steps encodedParent at hab
    split at hab
    · rename_i gr hgr
      obtain ⟨hlog, hslot⟩ := hmem hgr
      rw [← hslot]
      exact horder _ hlog (.group b) (List.mem_map_of_mem (Option.mem_toList.mpr hab))
    · cases hab
  refine acyclic_encodedParent_iff.mp fun k hk => ?_
  have hdown : ∀ b, Relation.TransGen (Steps (encodedParent settings body)) k b →
      rank (.group b) < rank (.group k) := by
    intro b hb
    induction hb with
    | single hab => exact hstep k _ hab
    | tail _ hbc ih => exact (hstep _ _ hbc).trans ih
  exact absurd (hdown k hk) (lt_irrefl _)

end Engine

/-! ## Two files -/

/-- A vector takes a flag and an amount for each dimension, whatever it sets. -/
theorem length_vector (v : ResourceVector) : (BinaryWriter.vector v).length = 155 := by
  have hcell : ∀ d, (BinaryWriter.flag (v.present d) ++
      BinaryWriter.i64 (if v.present d then v.get d else 0)).length = 9 := by
    intro d
    rw [List.length_append]
    unfold BinaryWriter.i64
    rw [length_toLE]
    rfl
  unfold BinaryWriter.vector
  rw [List.length_append, List.length_flatMap]
  simp only [hcell]
  decide

theorem length_writeQuota (q : ResourceQuota) : (writeQuota q).length = 1342 := by
  unfold writeQuota BinaryWriter.id BinaryWriter.u64 BinaryWriter.i64 BinaryWriter.u32
  simp only [List.length_append, length_vector, length_toLE]
  rfl

theorem length_writeGroup (g : TenantGroup) : (writeGroup g).length ≤ 1392 + g.name.length := by
  have hparent : (BinaryWriter.optionalId g.parent).length ≤ 17 := by
    cases g.parent <;> exact Nat.le_of_ble_eq_true rfl
  unfold writeGroup BinaryWriter.string BinaryWriter.id BinaryWriter.size BinaryWriter.u64
  simp only [List.length_append, length_writeQuota, length_toLE, BinaryWriter.u8, List.length_singleton]
  omega

theorem length_writeList_le {α : Type} {write : α → Bytes} {l : List α} {n : Nat}
    (h : ∀ x ∈ l, (write x).length ≤ n) : (writeList write l).length ≤ 4 + l.length * n := by
  have hsum : (l.map fun x => (write x).length).sum ≤ (l.map fun x => (write x).length).length * n := by
    refine List.sum_le_card_nsmul _ n fun k hk => ?_
    obtain ⟨x, hx, rfl⟩ := List.mem_map.mp hk
    exact h x hx
  rw [List.length_map] at hsum
  unfold writeList BinaryWriter.count BinaryWriter.u32
  rw [List.length_append, length_toLE, List.length_flatMap]
  omega

namespace Engine

/-- A file with groups only. -/
theorem length_saveBlob_groups {m : UMap TenantGroupId TenantGroup}
    (hname : ∀ g gr, m.lookup g = some gr → gr.name = []) :
    ({ groups := m } : Engine).saveBlob.length ≤ 117 + m.entries.length * 1392 := by
  have hgroups : (writeList (fun e => writeGroup e.2) (sortedById m)).length ≤ 4 + m.entries.length * 1392 := by
    rw [← length_sortedById]
    refine length_writeList_le fun e he => ?_
    have hlen := length_writeGroup e.2
    rw [hname e.1 e.2 (mem_sortedById.mp he)] at hlen
    exact hlen
  have hheader : ({} : Engine).writeHeader.length = 65 := by decide +kernel
  have hlength : ({ groups := m } : Engine).serializeState.length =
      ({} : Engine).writeHeader.length + (writeList (fun e => writeGroup e.2) (sortedById m)).length +
        4 + 4 + 4 + 4 + 4 + 4 + 4 := by
    unfold serializeState
    simp only [List.length_append]
    rfl
  show (packBody ({ groups := m } : Engine).serializeState).length ≤ _
  rw [length_packBody, hlength, hheader]
  omega

theorem insertGroup_encodable {s : Engine} (h : Encodable True 0 s) (gr : TenantGroup)
    (hq : gr.quota.Storable) : Encodable True 0 { s with groups := s.groups.insert gr.id gr } :=
  ⟨h.depth, forall_lookup_insert h.groups ⟨fun _ => rfl, hq⟩, h.tenants, h.localQuota, h.groupQuota,
    h.reservations, h.funding, h.allocations, h.borrows, h.lends⟩

/-- An engine with one group below another. -/
def parentAndChild : Engine :=
  { groups := ((∅ : UMap TenantGroupId TenantGroup).insert ⟨0, 1⟩ { id := ⟨0, 1⟩ }).insert ⟨0, 2⟩
      { id := ⟨0, 2⟩, parent := some ⟨0, 1⟩ } }

theorem parentAndChild_encodable : Encodable True 0 parentAndChild :=
  insertGroup_encodable (insertGroup_encodable (fresh_sound True 0 {}).toEncodable { id := ⟨0, 1⟩ } (by decide))
    { id := ⟨0, 2⟩, parent := some ⟨0, 1⟩ } (by decide)

theorem read_parentAndChild :
    (loadState {}).run parentAndChild.serializeState = (parentAndChild.writes, .ok ((), [])) :=
  (load_serializeState parentAndChild_encodable (by decide) (by decide) (by decide) {}).1

/-- The age of a group in this file. -/
def groupAge : Slot → Nat
  | .group g => g.lo.toNat
  | _ => 0

/-- Its file passes the check. -/
theorem parentAndChild_checked : CheckedBody {} parentAndChild.serializeState :=
  checkedBody_of_ordered groupAge (congrArg Prod.fst read_parentAndChild) (by decide +kernel) (by decide +kernel)
    (by decide +kernel) (by decide +kernel)

/-- The file is accepted, and the engine it gives is well-formed. -/
theorem loaded_state_well_formed_iff_parentAndChild :
    ∃ s', ({} : Engine).loadFrom {} (.bytes parentAndChild.saveBlob) = some (.success, s') ∧
      s'.parentOf ⟨0, 2⟩ = some ⟨0, 1⟩ ∧ WellFormed s' ∧ AncestorsEnd s' := by
  have hbounds : WithinBounds {} parentAndChild ∧ StringsFit parentAndChild := by decide
  have hfile : parentAndChild.saveBlob.length < 2 ^ 63 :=
    (length_saveBlob_groups (m := parentAndChild.groups) (by decide +kernel)).trans_lt (by decide +kernel)
  obtain ⟨-, s', hrun, -, hsame, -⟩ :=
    load_serializeState parentAndChild_encodable hbounds.2 hbounds.1 (by decide) {}
  have hload : ({} : Engine).loadFrom {} (.bytes parentAndChild.saveBlob) = some (.success, s') := by
    rw [loadFrom_saveBlob hfile, hrun]
  have hparent : s'.parentOf ⟨0, 2⟩ = some ⟨0, 1⟩ := by
    unfold parentOf
    rw [hsame.groups]
    rfl
  obtain ⟨body, hbody, hiff⟩ := loaded_state_well_formed_iff hload
  have hsaved : parentAndChild.serializeState = body := packBody_injective (FileRead.bytes.inj hbody)
  obtain ⟨hwell, hends, -⟩ := hiff.mpr (hsaved ▸ parentAndChild_checked)
  exact ⟨s', hload, hparent, hwell, hends⟩

/-- An engine whose only group is its own parent. -/
def selfParent : Engine :=
  { groups := (∅ : UMap TenantGroupId TenantGroup).insert ⟨0, 1⟩ { id := ⟨0, 1⟩, parent := some ⟨0, 1⟩ } }

theorem selfParent_encodable : Encodable True 0 selfParent :=
  insertGroup_encodable (fresh_sound True 0 {}).toEncodable { id := ⟨0, 1⟩, parent := some ⟨0, 1⟩ } (by decide)

/-- **A cycle is accepted**: a new engine loads the file, and the group it finds there is its own
    ancestor. -/
theorem self_parent_is_loaded :
    ∃ s', ({} : Engine).loadFrom {} (.bytes selfParent.saveBlob) = some (.success, s') ∧
      s'.parentOf ⟨0, 1⟩ = some ⟨0, 1⟩ ∧ ¬ WellFormed s' := by
  have hbounds : WithinBounds {} selfParent ∧ StringsFit selfParent := by decide
  have hfile : selfParent.saveBlob.length < 2 ^ 63 :=
    (length_saveBlob_groups (m := selfParent.groups) (by decide +kernel)).trans_lt (by decide +kernel)
  obtain ⟨-, s', hload, -, hsame, -⟩ :=
    load_serializeState selfParent_encodable hbounds.2 hbounds.1 (by decide) {}
  have hparent : s'.parentOf ⟨0, 1⟩ = some ⟨0, 1⟩ := by
    unfold parentOf
    rw [hsame.groups]
    rfl
  refine ⟨s', ?_, hparent, fun h => h.acyclic _ (.single hparent)⟩
  rw [loadFrom_saveBlob hfile, hload]

end Engine

end QuotaFabric
