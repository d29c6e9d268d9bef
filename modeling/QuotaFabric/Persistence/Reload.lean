import QuotaFabric.Engine.Controls
import QuotaFabric.Persistence.Corruption
import QuotaFabric.Persistence.Reachable

/-!
# Whatever was saved, loaded again

Runs of public calls and loads, and which of the states they reach can be loaded back from their own
file by a new engine with the same settings.

* `Action`, `act` — a call, or `load_from` on any file;
* `store_sound`, `deserializeState_sound` — a load, complete or not, stores encodable values only;
* `SameBounds` — nothing changes the bounds of the settings;
* `truncated` — the retention bound as the file holds it.

Main result: `saved_state_loads_iff` — exactly the states whose record counts are within the settings
and whose strings are at most `2 ^ 24` bytes.  `create_tenant` alone checks a bound: the other calls
that make or keep records can leave the engine in a state it cannot recover.
-/

set_option autoImplicit false

namespace QuotaFabric

open AList LogParser

/-! ## Values a load stores -/

/-- What an assignment must satisfy to keep the records encodable. -/
def Stored.Fits (cap : Nat) : Stored → Prop
  | .maxHierarchyDepth n => n.toNat < 2 ^ 16
  | .group g => g.quota.Storable
  | .tenant t => Str.Storable t.serviceClass
  | .tenantQuota q => q.Storable
  | .groupQuota _ q => q.Storable
  | .funding _ f => f.burst.Valid ∧ f.borrows.length ≤ cap
  | .reservation r => r.Storable
  | .allocation a => a.Storable
  | .borrow b => b.Storable
  | .lending l => l.Storable
  | _ => True

/-- The slots of records, as opposed to those of the header. -/
def Slot.isRecord : Slot → Bool
  | .group _ | .tenant _ | .tenantQuota _ | .groupQuota _ | .funding _ | .reservation _ | .allocation _
  | .borrow _ | .lending _ => true
  | _ => false

section Loader

variable {cap : Nat}

/-- A record with encodable values. -/
def Stored.FitsRecord (cap : Nat) (p : Stored) : Prop := p.Fits cap ∧ p.slot.isRecord = true

theorem yields_loadList {R : Stored → Prop} {bound : UInt32} {message : Str} {one : Loader}
    (h : Yields one R fun _ => True) : Yields (loadList bound message one) R fun _ => True := by
  refine yields_u32.bind fun n _ => ?_
  split
  · exact yields_fail _
  · exact h.times n.toNat

theorem yields_loadReservation {maxBorrows : UInt32} (hcap : maxBorrows.toNat ≤ cap) :
    Yields (loadReservation maxBorrows) (Stored.FitsRecord cap) fun _ => True := by
  refine yields_readReservation.bind fun r hr => (yields_readFunding maxBorrows).bind fun f hf => ?_
  have hemit : Yields (emit (.reservation r) : Loader) (Stored.FitsRecord cap) fun _ => True :=
    yields_emit ⟨hr, rfl⟩
  cases f with
  | none => exact hemit
  | some f =>
    obtain ⟨hburst, hlen⟩ := hf f rfl
    have hfits : (Stored.funding r.id f).FitsRecord cap := ⟨⟨hburst, hlen.trans hcap⟩, rfl⟩
    exact (yields_emit hfits).bind fun _ _ => hemit

/-- **On any bytes, the record lists yield records with encodable values only.** -/
theorem yields_loadRecords {settings : EngineSettings} (hcap : settings.maxBorrows.toNat ≤ cap) :
    Yields (loadRecords settings) (Stored.FitsRecord cap) fun _ => True := by
  have hgroup : Yields loadGroup (Stored.FitsRecord cap) fun _ => True :=
    yields_readGroup.bind fun _ h => yields_emit ⟨h.quota, rfl⟩
  have htenant : Yields loadTenant (Stored.FitsRecord cap) fun _ => True :=
    yields_readTenant.bind fun _ h => yields_emit ⟨h.serviceClass, rfl⟩
  have htenantQuota : Yields loadTenantQuota (Stored.FitsRecord cap) fun _ => True :=
    yields_readQuota.bind fun _ h => yields_emit ⟨h, rfl⟩
  have hgroupQuota : Yields loadGroupQuota (Stored.FitsRecord cap) fun _ => True :=
    yields_id.bind fun _ _ => yields_readQuota.bind fun _ h => yields_emit ⟨h, rfl⟩
  have hallocation : Yields loadAllocation (Stored.FitsRecord cap) fun _ => True :=
    yields_readAllocation.bind fun _ h => yields_emit ⟨h, rfl⟩
  have hborrow : Yields loadBorrow (Stored.FitsRecord cap) fun _ => True :=
    yields_readBorrow.bind fun _ h => yields_emit ⟨h, rfl⟩
  have hlending : Yields loadLending (Stored.FitsRecord cap) fun _ => True :=
    yields_readLending.bind fun _ h => yields_emit ⟨h, rfl⟩
  have hend : Yields requireEnd (Stored.FitsRecord cap) fun _ => True := by
    intro bs
    refine ⟨fun x hx => ?_, fun _ _ _ => trivial⟩
    unfold requireEnd at hx
    simp only at hx
    split at hx <;> exact absurd hx List.not_mem_nil
  refine (yields_loadList hgroup).bind fun _ _ => (yields_loadList htenant).bind fun _ _ => ?_
  refine (yields_loadList htenantQuota).bind fun _ _ => (yields_loadList hgroupQuota).bind fun _ _ => ?_
  refine (yields_loadList (yields_loadReservation hcap)).bind fun _ _ => ?_
  refine (yields_loadList hallocation).bind fun _ _ => (yields_loadList hborrow).bind fun _ _ => ?_
  exact (yields_loadList hlending).bind fun _ _ => hend

/-- The header after the three fields an authority is compared with. -/
def loadHeaderTail : Loader := do
  let n ← BinaryReader.u64
  emit (.sequence n)
  let name ← BinaryReader.string
  emit (.policyName name)
  let description ← BinaryReader.string
  emit (.policyDescription description)
  let createdAt ← BinaryReader.u64
  emit (.policyCreatedAt createdAt)
  let mode ← BinaryReader.u8
  emit (.overcommitMode (.ofByte mode))
  let depth ← BinaryReader.u16
  emit (.maxHierarchyDepth depth.toUInt32)
  let retention ← BinaryReader.u16
  emit (.maxEventRetention retention.toUInt32)

/-- The epoch and the two generations. -/
def Slot.isAuthority : Slot → Bool
  | .epoch | .quotaGeneration | .policyGeneration => true
  | _ => false

theorem yields_loadHeaderTail :
    Yields loadHeaderTail (fun p => p.Fits cap ∧ p.slot.isAuthority = false) fun _ => True := by
  refine yields_u64.bind fun _ _ => (yields_emit ⟨trivial, rfl⟩).bind fun _ _ => ?_
  refine yields_string.bind fun _ _ => (yields_emit ⟨trivial, rfl⟩).bind fun _ _ => ?_
  refine yields_string.bind fun _ _ => (yields_emit ⟨trivial, rfl⟩).bind fun _ _ => ?_
  refine yields_u64.bind fun _ _ => (yields_emit ⟨trivial, rfl⟩).bind fun _ _ => ?_
  refine yields_u8.bind fun _ _ => (yields_emit ⟨trivial, rfl⟩).bind fun _ _ => ?_
  refine yields_u16.bind fun depth _ => ?_
  have hdepth : (Stored.maxHierarchyDepth depth.toUInt32).Fits cap := by
    show depth.toUInt32.toNat < 2 ^ 16
    rw [UInt16.toNat_toUInt32]
    exact depth.toNat_lt
  refine (yields_emit ⟨hdepth, rfl⟩).bind fun _ _ => ?_
  exact yields_u16.bind fun _ _ => yields_emit ⟨trivial, rfl⟩

/-- **On any bytes, the loader stores encodable values only.** -/
theorem yields_loadState {settings : EngineSettings} (hcap : settings.maxBorrows.toNat ≤ cap) :
    Yields (loadState settings) (Stored.Fits cap) fun _ => True := by
  have hrecords := (yields_loadRecords hcap).mono fun p (h : p.FitsRecord cap) => h.1
  have htail : Yields loadHeaderTail (Stored.Fits cap) fun _ => True :=
    yields_loadHeaderTail.mono fun p h => h.1
  have hheader : Yields loadHeader (Stored.Fits cap) fun _ => True := by
    refine yields_u64.bind fun _ _ => (yields_emit trivial).bind fun _ _ => ?_
    refine yields_u64.bind fun _ _ => (yields_emit trivial).bind fun _ _ => ?_
    exact yields_u64.bind fun _ _ => (yields_emit trivial).bind fun _ _ => htail
  refine yields_u32.bind fun ver _ => ?_
  split
  · exact yields_fail _
  · exact hheader.bind fun _ _ => hrecords

end Loader

namespace Engine

/-! ## Loads -/

section Loads

variable {cap : Nat} {env : Env} {s : Engine}

theorem store_sound (h : Sound False cap s) {p : Stored} (hp : p.Fits cap) : Sound False cap (s.store p) := by
  have hgrow : ∀ (b : BorrowRecord), s.borrows.entries.length ≤ (s.borrows.insert b.id b).entries.length :=
    fun b => length_le_of_subset fun k hk => by rw [mem_insert]; exact Or.inr hk
  cases p with
  | maxHierarchyDepth n =>
    exact ⟨⟨hp, h.groups, h.tenants, h.localQuota, h.groupQuota, h.reservations, h.funding, h.allocations,
      h.borrows, h.lends⟩, h.counters⟩
  | group g =>
    exact ⟨⟨h.depth, forall_lookup_insert h.groups ⟨False.elim, hp⟩, h.tenants, h.localQuota, h.groupQuota,
      h.reservations, h.funding, h.allocations, h.borrows, h.lends⟩, h.counters⟩
  | tenant t =>
    exact ⟨⟨h.depth, h.groups, forall_lookup_insert h.tenants ⟨False.elim, hp⟩, h.localQuota, h.groupQuota,
      h.reservations, h.funding, h.allocations, h.borrows, h.lends⟩, h.counters⟩
  | tenantQuota q =>
    exact ⟨⟨h.depth, h.groups, h.tenants, forall_lookup_insert h.localQuota ⟨False.elim, hp⟩, h.groupQuota,
      h.reservations, h.funding, h.allocations, h.borrows, h.lends⟩, h.counters⟩
  | groupQuota g q =>
    exact ⟨⟨h.depth, h.groups, h.tenants, h.localQuota, forall_lookup_insert h.groupQuota hp,
      h.reservations, h.funding, h.allocations, h.borrows, h.lends⟩, h.counters⟩
  | funding r f =>
    exact ⟨⟨h.depth, h.groups, h.tenants, h.localQuota, h.groupQuota, h.reservations,
      forall_lookup_insert h.funding ⟨False.elim, hp.1, hp.2.trans (le_max_left _ _)⟩, h.allocations,
      h.borrows, h.lends⟩, h.counters⟩
  | reservation r =>
    exact ⟨⟨h.depth, h.groups, h.tenants, h.localQuota, h.groupQuota,
      forall_lookup_insert h.reservations ⟨False.elim, hp⟩,
      fun rid f hf => ⟨False.elim, (h.funding rid f hf).2⟩, h.allocations, h.borrows, h.lends⟩, h.counters⟩
  | allocation a =>
    exact ⟨⟨h.depth, h.groups, h.tenants, h.localQuota, h.groupQuota, h.reservations, h.funding,
      forall_lookup_insert h.allocations ⟨False.elim, hp⟩, h.borrows, h.lends⟩, h.counters⟩
  | borrow b =>
    refine ⟨⟨h.depth, h.groups, h.tenants, h.localQuota, h.groupQuota, h.reservations,
      fun rid f hf => ⟨False.elim, (h.funding rid f hf).2.1, ?_⟩, h.allocations,
      forall_lookup_insert h.borrows ⟨False.elim, hp⟩, h.lends⟩, h.counters⟩
    exact (h.funding rid f hf).2.2.trans (max_le_max (le_refl _) (hgrow b))
  | lending l =>
    exact ⟨⟨h.depth, h.groups, h.tenants, h.localQuota, h.groupQuota, h.reservations, h.funding,
      h.allocations, h.borrows, forall_lookup_insert h.lends ⟨False.elim, hp⟩⟩, h.counters⟩
  | _ =>
    exact ⟨⟨h.depth, h.groups, h.tenants, h.localQuota, h.groupQuota, h.reservations, h.funding,
      h.allocations, h.borrows, h.lends⟩, h.counters⟩

theorem storeAll_sound : ∀ (log : List Stored) {s : Engine}, Sound False cap s → (∀ p ∈ log, p.Fits cap) →
    Sound False cap (s.storeAll log)
  | [], _, h, _ => h
  | p :: log, _, h, hlog =>
    storeAll_sound log (store_sound h (hlog p List.mem_cons_self))
      fun q hq => hlog q (List.mem_cons_of_mem p hq)

theorem foldl_syncUsage_sound : ∀ (l : List ((Σ _ : TenantId, Tenant) × Nat)) {s : Engine},
    Sound False cap s → Sound False cap (l.foldl (fun s e => s.syncUsage env e.2 e.1.1) s)
  | [], _, h => h
  | e :: l, s, h => by
    have hsync := ((Resynced.refl env s).sync e.2 e.1.1).sound h.toEncodable h.counters
    exact foldl_syncUsage_sound l hsync

theorem deserializeState_sound (h : Sound False cap s) (hcap : s.settings.maxBorrows.toNat ≤ cap)
    (body : Bytes) : Sound False cap (s.deserializeState env body).2 := by
  have hstored := storeAll_sound _ h (yields_loadState hcap body).1
  unfold deserializeState
  simp only
  split
  · exact hstored
  · exact foldl_syncUsage_sound _ hstored

/-- A load leaves the engine as it is, or reads a body. -/
theorem loadFrom_cases {file : FileRead} {r : QuotaStatus × Engine} (h : s.loadFrom env file = some r) :
    (r.1.ok = false ∧ r.2 = s) ∨ ∃ body, r = s.deserializeState env body := by
  have hrefuse : ∀ message, s.refuseLoad message = some r → r.1.ok = false ∧ r.2 = s := by
    intro message hm
    cases hm
    exact ⟨rfl, rfl⟩
  unfold loadFrom at h
  split at h
  · exact Or.inl (hrefuse _ h)
  · exact Or.inl (hrefuse _ h)
  unfold loadBlob at h
  split at h
  · exact Or.inl (hrefuse _ h)
  · exact Or.inl (hrefuse _ h)
  split at h
  · exact Or.inl (hrefuse _ h)
  split at h
  · cases h
  split at h
  · exact Or.inl (hrefuse _ h)
  · cases h
    exact Or.inr ⟨_, rfl⟩

end Loads

/-! ## Runs with loads -/

/-- A public call, or `load_from` on some file. -/
inductive Action where
  | call (c : Env × Call)
  | load (env : Env) (file : FileRead)

def act (s : Engine) : Action → Engine
  | .call c => s.after c
  | .load env file =>
    match s.loadFrom env file with
    | none => s
    | some r => r.2

theorem act_load {env : Env} {s : Engine} {file : FileRead} {r : QuotaStatus × Engine}
    (h : s.loadFrom env file = some r) : s.act (.load env file) = r.2 := by
  unfold act
  simp only [h]

/-- A call with new ids and arguments in range, or a load with a defined result. -/
def plainAction (s : Engine) : Action → Prop
  | .call c => plainCall s c
  | .load env file => (s.loadFrom env file).isSome = true

/-- The settings are these, up to the event retention, which is part of the saved state. -/
def SameBounds (settings : EngineSettings) (s : Engine) : Prop :=
  s.settings = { settings with maxEventRetention := s.settings.maxEventRetention }

theorem store_sameBounds {settings : EngineSettings} {s : Engine} (h : SameBounds settings s) (p : Stored) :
    SameBounds settings (s.store p) := by
  cases p with
  | maxEventRetention n =>
    unfold SameBounds at h ⊢
    show { s.settings with maxEventRetention := n } = _
    rw [h]
    rfl
  | _ => exact h

theorem storeAll_sameBounds {settings : EngineSettings} : ∀ (log : List Stored) {s : Engine},
    SameBounds settings s → SameBounds settings (s.storeAll log)
  | [], _, h => h
  | p :: log, _, h => storeAll_sameBounds log (store_sameBounds h p)

theorem deserializeState_sameBounds {settings : EngineSettings} {s : Engine} (h : SameBounds settings s)
    (env : Env) (body : Bytes) : SameBounds settings (s.deserializeState env body).2 := by
  have hstored := storeAll_sameBounds ((loadState s.settings).run body).1 h
  unfold deserializeState
  simp only
  split
  · exact hstored
  · rw [syncAll_frame]
    exact hstored

/-- What holds in every state that calls and loads reach. -/
structure ReloadInv (settings : EngineSettings) (s : Engine) : Prop where
  bounds : SameBounds settings s
  sound : Sound False settings.maxBorrows.toNat s

theorem act_reloadInv {settings : EngineSettings} {s : Engine} {a : Action} (h : ReloadInv settings s)
    (ha : plainAction s a) : ReloadInv settings (s.act a) := by
  cases a with
  | call c =>
    refine ⟨?_, exec_sound h.sound ha⟩
    have hset : (s.act (.call c)).settings = s.settings := exec_settings c.1 s c.2
    unfold SameBounds
    rw [hset]
    exact h.bounds
  | load env file =>
    obtain ⟨r, hr⟩ := Option.isSome_iff_exists.mp ha
    rw [act_load hr]
    rcases loadFrom_cases hr with ⟨-, hsame⟩ | ⟨body, rfl⟩
    · rw [hsame]
      exact h
    · have hcap : s.settings.maxBorrows.toNat ≤ settings.maxBorrows.toNat := by
        rw [show s.settings = _ from h.bounds]
      exact ⟨deserializeState_sameBounds h.bounds env body, deserializeState_sound h.sound hcap body⟩

theorem run_reloadInv {settings : EngineSettings} {l : List Action} {s : Engine}
    (hrun : Run act plainAction { settings := settings } l s) : ReloadInv settings s :=
  hrun.invariant ⟨rfl, fresh_sound False _ settings⟩ fun _ _ h ha => act_reloadInv h ha

/-! ## Main result -/

/-- The engine with its event retention as a file holds it, in 16 bits. -/
def truncated (s : Engine) : Engine :=
  { s with settings :=
    { s.settings with maxEventRetention := s.settings.maxEventRetention.toUInt16.toUInt32 } }

theorem serializeState_truncated (s : Engine) : s.truncated.serializeState = s.serializeState := by
  have hret : s.settings.maxEventRetention.toUInt16.toUInt32.toUInt16 =
      s.settings.maxEventRetention.toUInt16 := UInt16.toUInt16_toUInt32 _
  unfold serializeState writeHeader truncated
  simp only [hret]

/-- What `save_to` writes is handed to `deserialize_state`. -/
theorem loadFrom_saveBlob {s : Engine} (hfile : s.saveBlob.length < 2 ^ 63) (env : Env) (s₀ : Engine) :
    s₀.loadFrom env (.bytes s.saveBlob) = some (s₀.deserializeState env s.serializeState) := by
  have hbody : s.serializeState.length < 2 ^ 63 := by
    unfold saveBlob at hfile
    rw [length_packBody] at hfile
    omega
  show s₀.loadBlob env (measured s.saveBlob) = _
  unfold measured
  rw [if_pos hfile]
  exact loadBlob_packBody env s₀ hbody

/-- A file that is too long to be measured is refused. -/
theorem loadFrom_overlong {blob : Bytes} (hfile : ¬ blob.length < 2 ^ 63) (env : Env) (s₀ : Engine) :
    s₀.loadFrom env (.bytes blob) = s₀.refuseLoad (text "load failed") := by
  have hempty : measured blob = [] := if_neg hfile
  unfold loadFrom
  simp only [hempty]
  rfl

/-- A new engine with these settings loads the file `save_to` writes for `s`. -/
def Reloads (settings : EngineSettings) (env : Env) (s : Engine) : Prop :=
  ∃ s', ({ settings := settings } : Engine).loadFrom env (.bytes s.saveBlob) = some (.success, s')

theorem reloads_of_reads {settings : EngineSettings} {env : Env} {s : Engine} {log : List Stored}
    (hfile : s.saveBlob.length < 2 ^ 63)
    (hread : (loadState settings).run s.serializeState = (log, .ok ((), []))) : Reloads settings env s := by
  unfold Reloads
  rw [loadFrom_saveBlob hfile]
  unfold deserializeState
  simp only [hread]
  exact ⟨_, rfl⟩

theorem not_reloads_of_fails {settings : EngineSettings} {env : Env} {s : Engine} {log : List Stored}
    {e : ReadError} (hread : (loadState settings).run s.serializeState = (log, .error e)) :
    ¬ Reloads settings env s := by
  rintro ⟨s', hload⟩
  by_cases hfile : s.saveBlob.length < 2 ^ 63
  · rw [loadFrom_saveBlob hfile] at hload
    unfold deserializeState at hload
    simp only [hread] at hload
    cases hload
  · -- nothing is read
    rw [loadFrom_overlong hfile] at hload
    cases hload

theorem Encodable.truncated {keyed : Prop} {cap : Nat} {s : Engine} (hs : Encodable keyed cap s) :
    Encodable keyed cap s.truncated :=
  ⟨hs.depth, hs.groups, hs.tenants, hs.localQuota, hs.groupQuota, hs.reservations, hs.funding,
    hs.allocations, hs.borrows, hs.lends⟩

/-- The loader reads the body of an encodable state exactly where the bounds are kept. -/
theorem Encodable.endsIff {keyed : Prop} {cap : Nat} {settings : EngineSettings} {s : Engine}
    (hs : Encodable keyed cap s) (hcap : cap ≤ settings.maxBorrows.toNat) (hsizes : SizesFit s) :
    EndsIff (loadState settings) s.serializeState s.truncated.writes
      (WithinBounds settings s ∧ StringsFit s) := by
  have hret : s.truncated.settings.maxEventRetention.toNat < 2 ^ 16 := by
    show (s.settings.maxEventRetention.toUInt16.toUInt32).toNat < 2 ^ 16
    rw [UInt16.toNat_toUInt32]
    exact UInt16.toNat_lt _
  have hsizes' : SizesFit s.truncated :=
    ⟨hsizes.groups, hsizes.tenants, hsizes.localQuota, hsizes.groupQuota, hsizes.reservations,
      hsizes.allocations, hsizes.borrows, hsizes.lends, hsizes.policyName, hsizes.policyDescription,
      hsizes.groupNames, hsizes.tenantNames⟩
  have hread := endsIff_loadState hs.truncated hsizes' hcap hret
  rw [serializeState_truncated] at hread
  -- the bounds and the strings do not mention the retention
  exact hread.congr ⟨fun ⟨hb, hs⟩ => ⟨⟨hb.groups, hb.tenants, hb.localQuota, hb.groupQuota, hb.reservations,
      hb.allocations, hb.borrows, hb.lends⟩, ⟨hs.policyName, hs.policyDescription, hs.groups, hs.tenants⟩⟩,
    fun ⟨hb, hs⟩ => ⟨⟨hb.groups, hb.tenants, hb.localQuota, hb.groupQuota, hb.reservations,
      hb.allocations, hb.borrows, hb.lends⟩, ⟨hs.policyName, hs.policyDescription, hs.groups, hs.tenants⟩⟩⟩

/-- In every state of a run. -/
theorem ReloadInv.endsIff {settings : EngineSettings} {s : Engine} (h : ReloadInv settings s)
    (hsizes : SizesFit s) :
    EndsIff (loadState settings) s.serializeState s.truncated.writes
      (WithinBounds settings s ∧ StringsFit s) := h.sound.endsIff (le_refl _) hsizes

/-- **What can be saved can be loaded, within the bounds**: a new engine with the same settings loads
    the file of a state that calls and loads reached where the record counts are within the settings
    and the strings are short enough, and, while the counts fit their fields, only there. -/
theorem saved_state_loads_iff {settings : EngineSettings} {l : List Action} {s : Engine}
    (hrun : Run act plainAction { settings := settings } l s) (hfile : s.saveBlob.length < 2 ^ 63)
    (env : Env) :
    (WithinBounds settings s ∧ StringsFit s → Reloads settings env s) ∧
    (SizesFit s → (Reloads settings env s ↔ WithinBounds settings s ∧ StringsFit s)) := by
  have hinv := run_reloadInv hrun
  have henough : WithinBounds settings s ∧ StringsFit s → Reloads settings env s :=
    fun hc => reloads_of_reads hfile ((hinv.endsIff (hc.1.sizesFit hc.2)).ends hc)
  refine ⟨henough, fun hsizes => ⟨fun hload => ?_, henough⟩⟩
  by_contra hc
  obtain ⟨log, e, hread⟩ := (hinv.endsIff hsizes).fails hc
  exact not_reloads_of_fails hread hload

/-- A tenant is created. -/
def createCapped : List Action := [.call (.numbered 1, .createTenant cappedTenant (text "capped") none 100)]

theorem saved_state_loads_iff_tenant :
    (createCapped.foldl act {}).tenants.entries.length = 1 ∧ Reloads {} {} (createCapped.foldl act {}) := by
  have hrun : Run act plainAction {} createCapped (createCapped.foldl act {}) :=
    .cons ⟨by decide +kernel, numbered_inRange 1, by show ResourceVector.Valid _; decide⟩ (.nil _)
  refine ⟨by decide +kernel, ?_⟩
  exact (saved_state_loads_iff hrun (by decide +kernel) {}).1 (by decide +kernel)

/-- Settings that allow one group. -/
def oneGroup : EngineSettings := { maxGroups := 1 }

/-- Two groups, made one after the other. -/
def twoGroups : List Action :=
  [.call (.numbered 1, .createGroup (text "a") .organization none),
    .call (.numbered 2, .createGroup (text "b") .organization none)]

theorem twoGroups_run :
    Run act plainAction { settings := oneGroup } twoGroups (twoGroups.foldl act { settings := oneGroup }) :=
  .cons ⟨by decide +kernel, numbered_inRange 1, by show ResourceVector.Valid _; decide⟩
    (.cons ⟨by decide +kernel, numbered_inRange 2, by show ResourceVector.Valid _; decide⟩ (.nil _))

/-- `create_group` does not look at the bound that `load_from` checks. -/
theorem second_group_cannot_be_reloaded :
    Run act plainAction { settings := oneGroup } twoGroups (twoGroups.foldl act { settings := oneGroup }) ∧
    ((twoGroups.foldl act { settings := oneGroup }).saveTo {} (text "state")).1 = .success ∧
    ¬ Reloads oneGroup {} (twoGroups.foldl act { settings := oneGroup }) := by
  refine ⟨twoGroups_run, by decide +kernel, ?_⟩
  have hsizes : SizesFit (twoGroups.foldl act { settings := oneGroup }) := by decide +kernel
  obtain ⟨log, e, hread⟩ := ((run_reloadInv twoGroups_run).endsIff hsizes).fails
    fun hc => absurd hc.1.groups (by decide +kernel)
  exact not_reloads_of_fails hread

end Engine

end QuotaFabric
