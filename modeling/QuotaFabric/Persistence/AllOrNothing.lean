import QuotaFabric.Persistence.Reload

/-!
# Loading over an engine in use

`load_from` writes into the live engine while it reads, and clears nothing first.

* `Unchanged` — what a failed load should leave;
* `encoded` — the record a body encodes for a slot;
* `AllOrNothing` — a load that fails changes nothing, and one that succeeds leaves the file's records
  and no others;
* `CleanBody`, `CleanFile` — what this takes: a body that fails must have stored only what was there
  already, and one that is read must write to every slot that is in use;
* `PassesTests`, `bounds_check_iff` — which files the length test keeps inside their buffer.

Main result: `load_all_or_nothing_iff`.
-/

set_option autoImplicit false

namespace QuotaFabric

open AList LogParser

/-- The assignment a body makes to a slot, the last one where there are several. -/
def encoded (settings : EngineSettings) (body : Bytes) (k : Slot) : Option Stored :=
  lastWrite Stored.slot ((loadState settings).run body).1 k

namespace Engine

/-! ## What a load keeps -/

/-- The stored records, the policy, the settings and every tenant's usage are the same. -/
structure Unchanged (s s' : Engine) : Prop extends Restored s s' where
  policy : s'.policy = s.policy
  settings : s'.settings = s.settings
  usage : s'.usage = s.usage

theorem Unchanged.refl (s : Engine) : Unchanged s s :=
  ⟨restored_of_held fun _ => rfl, rfl, rfl, rfl⟩

/-- The policy, with the fields the loader assigns taken from another one. -/
def mergedPolicy (p q : QuotaPolicy) : QuotaPolicy :=
  { p with
    generation := q.generation, name := q.name, description := q.description, createdAt := q.createdAt
    overcommit := { p.overcommit with mode := q.overcommit.mode }
    maxHierarchyDepth := q.maxHierarchyDepth }

/-- The loader assigns six fields of the policy and no counter. -/
structure StoreFrame (s s' : Engine) : Prop where
  policy : s'.policy = mergedPolicy s.policy s'.policy
  settings : SameBounds s.settings s'
  usage : s'.usage = s.usage

theorem store_frame {s₀ s : Engine} (h : StoreFrame s₀ s) (p : Stored) : StoreFrame s₀ (s.store p) := by
  refine ⟨?_, store_sameBounds h.settings p, ?_⟩
  · have hpolicy := h.policy
    unfold mergedPolicy at hpolicy ⊢
    cases p with
    | policyGeneration | policyName | policyDescription | policyCreatedAt | overcommitMode
    | maxHierarchyDepth =>
      simp only [store]
      rw [hpolicy]
    | _ => exact hpolicy
  · cases p <;> exact h.usage

theorem storeAll_frame {s₀ : Engine} : ∀ (log : List Stored) {s : Engine}, StoreFrame s₀ s →
    StoreFrame s₀ (s.storeAll log)
  | [], _, h => h
  | p :: log, _, h => storeAll_frame log (store_frame h p)

/-- **Assignments change nothing exactly when each slot already holds the last one made to it.** -/
theorem unchanged_storeAll_iff {s : Engine} {log : List Stored} :
    Unchanged s (s.storeAll log) ↔
      ∀ k p, lastWrite Stored.slot log k = some p → s.held k = some p := by
  have hlog : (∀ k, (s.storeAll log).held k = s.held k) ↔
      ∀ k p, lastWrite Stored.slot log k = some p → s.held k = some p := unchanged_iff held_store
  rw [← hlog]
  constructor
  · rintro h k
    cases k <;> simp only [held, h.epoch, h.quotaGeneration, h.policyGeneration, h.sequence, h.policyName,
      h.policyDescription, h.policyCreatedAt, h.overcommitMode, h.maxHierarchyDepth, h.maxEventRetention,
      h.groups, h.tenants, h.localQuota, h.groupQuota, h.reservations, h.funding, h.allocations,
      h.borrows, h.lends]
  · intro h
    have hsame := restored_of_held h
    have hframe : StoreFrame s (s.storeAll log) := storeAll_frame log ⟨rfl, rfl, rfl⟩
    refine ⟨hsame, ?_, ?_, hframe.usage⟩
    · rw [hframe.policy]
      unfold mergedPolicy
      rw [hsame.policyGeneration, hsame.policyName, hsame.policyDescription, hsame.policyCreatedAt,
        hsame.overcommitMode, hsame.maxHierarchyDepth]
    · rw [show (s.storeAll log).settings = _ from hframe.settings, hsame.maxEventRetention]

/-! ## Clean loads -/

/-- A file with less than four bytes after its header, whose length field agrees with the unsigned
    difference the loader computes. -/
def ShortBody (blob : Bytes) : Prop :=
  ∃ len rest, blob = envelopeOf len ++ rest ∧ rest.length < 4 ∧ len = UInt64.ofNat rest.length - 4

/-- Reading the body fails after storing only what was there, or stores a record in every slot in use. -/
def CleanBody (s : Engine) (body : Bytes) : Prop :=
  match (loadState s.settings).run body with
  | (log, .error _) => ∀ k p, lastWrite Stored.slot log k = some p → s.held k = some p
  | (log, .ok _) => ∀ k, k.isRecord = true → s.held k ≠ none → ∃ p ∈ log, p.slot = k

/-- A file that has a defined result and, where its envelope is in order, a clean body. -/
structure CleanFile (s : Engine) (file : FileRead) : Prop where
  long : ∀ blob, file = .bytes blob → ¬ ShortBody blob
  body : ∀ body, file = .bytes (packBody body) → (packBody body).length < 2 ^ 63 → CleanBody s body

/-- **All or nothing**: a failed load leaves the engine as it was, and a successful one leaves the
    records of the file and no others. -/
def AllOrNothing (env : Env) (s : Engine) (file : FileRead) : Prop :=
  ∃ status s', s.loadFrom env file = some (status, s') ∧
    (status.ok = false → Unchanged s s') ∧
    (status.ok = true → ∃ body, file = .bytes (packBody body) ∧
      ∀ k, k.isRecord = true → s'.held k = encoded s.settings body k)

theorem packBody_injective {body body' : Bytes} (h : packBody body = packBody body') : body = body' :=
  (packBody_split rfl (by unfold BinaryWriter.u32; rw [length_toLE]) h.symm).1

theorem ShortBody.length_lt {blob : Bytes} (h : ShortBody blob) : blob.length < 20 := by
  obtain ⟨len, rest, rfl, hlt, -⟩ := h
  rw [List.length_append, length_envelopeOf]
  omega

section Files

variable {env : Env} {s : Engine}

theorem allOrNothing_of_refused {file : FileRead} {message : Str}
    (h : s.loadFrom env file = s.refuseLoad message) : AllOrNothing env s file :=
  ⟨_, s, h, fun _ => .refl s, fun hok => by cases hok⟩

theorem loadBlob_of_shortBody {blob : Bytes} (h : ShortBody blob) : s.loadBlob env blob = none := by
  obtain ⟨len, rest, rfl, hlt, hlen⟩ := h
  unfold loadBlob
  rw [run_readEnvelope]
  simp only
  rw [if_neg (not_not.mpr hlen), if_pos hlt]

/-- Every slot of a record shows the record of the file exactly when each slot in use is written. -/
theorem records_encoded_iff (env : Env) (log : List Stored) :
    (∀ k, k.isRecord = true → ((s.storeAll log).syncAll env).held k = lastWrite Stored.slot log k) ↔
      ∀ k, k.isRecord = true → s.held k ≠ none → ∃ p ∈ log, p.slot = k := by
  have hfresh : ∀ k : Slot, k.isRecord = true → ({} : Engine).held k = none := by
    intro k hk
    cases k with
    | group | tenant | tenantQuota | groupQuota | funding | reservation | allocation | borrow | lending =>
      rfl
    | _ => cases hk
  refine forall_congr' fun k => forall_congr' fun hk => ?_
  have hlog : (({} : Engine).storeAll log).held k = lastWrite Stored.slot log k := by
    rw [held_storeAll, hfresh k hk, Option.or_none]
  rw [held_syncAll, ← hlog]
  exact determined_iff held_store (hfresh k hk)

/-- A file whose envelope is in order is loaded cleanly exactly when its body is clean. -/
theorem allOrNothing_packBody_iff {body : Bytes} (hlen : (packBody body).length < 2 ^ 63) :
    AllOrNothing env s (.bytes (packBody body)) ↔ CleanBody s body := by
  have hbody : body.length < 2 ^ 63 := by
    rw [length_packBody] at hlen
    omega
  have hload : s.loadFrom env (.bytes (packBody body)) = some (s.deserializeState env body) := by
    have hall : measured (packBody body) = packBody body := if_pos hlen
    unfold loadFrom
    simp only [hall]
    exact loadBlob_packBody env s hbody
  unfold AllOrNothing CleanBody
  rw [hload]
  unfold deserializeState
  cases hrun : (loadState s.settings).run body with
  | mk log result =>
    cases result with
    | error e =>
      simp only
      rw [← unchanged_storeAll_iff]
      constructor
      · rintro ⟨status, s', heq, hfail, -⟩
        cases heq
        exact hfail rfl
      · intro h
        exact ⟨_, _, rfl, fun _ => h, fun hok => by cases hok⟩
    | ok r =>
      simp only
      rw [← records_encoded_iff env]
      constructor
      · rintro ⟨status, s', heq, -, hdone⟩ k hk
        cases heq
        obtain ⟨body', hsame, hall⟩ := hdone rfl
        rw [← packBody_injective (FileRead.bytes.inj hsame)] at hall
        rw [hall k hk]
        unfold encoded
        rw [hrun]
      · intro h
        refine ⟨_, _, rfl, fun hok => (by cases hok), fun _ => ⟨body, rfl, fun k hk => ?_⟩⟩
        rw [h k hk]
        unfold encoded
        rw [hrun]

end Files

/-! ## Main result -/

/-- **A load is all-or-nothing exactly on clean files**: those whose header is followed by four bytes
    or more, and whose body, if the checksum is right, either fails after storing only what the engine
    held already or writes to every slot that was in use. -/
theorem load_all_or_nothing_iff (env : Env) (s : Engine) (file : FileRead) :
    AllOrNothing env s file ↔ CleanFile s file := by
  cases file with
  | missing => exact ⟨fun _ => ⟨nofun, nofun⟩, fun _ => allOrNothing_of_refused rfl⟩
  | broken => exact ⟨fun _ => ⟨nofun, nofun⟩, fun _ => allOrNothing_of_refused rfl⟩
  | bytes blob =>
    by_cases hlen : blob.length < 2 ^ 63
    · have hmeasured : measured blob = blob := if_pos hlen
      have hload : s.loadFrom env (.bytes blob) = s.loadBlob env blob := by
        unfold loadFrom
        simp only [hmeasured]
      rcases loadBlob_cases env s hlen with ⟨message, hrefused⟩ | ⟨len, rest, hblob, hshort, hmatch, hnone⟩ |
        ⟨body, rfl⟩
      · refine ⟨fun _ => ⟨?_, ?_⟩, fun _ => allOrNothing_of_refused (hload.trans hrefused)⟩
        · rintro _ ⟨⟩ hshort
          rw [loadBlob_of_shortBody hshort] at hrefused
          cases hrefused
        · rintro body ⟨⟩ -
          rw [length_packBody] at hlen
          rw [loadBlob_packBody env s (by omega)] at hrefused
          -- the two failures carry different codes
          have hcode := congrArg (Option.map fun r => r.1.code) hrefused
          unfold deserializeState at hcode
          simp only at hcode
          split at hcode <;> cases hcode
      · constructor
        · rintro ⟨status, s', heq, -⟩
          rw [hload, hnone] at heq
          cases heq
        · intro h
          exact absurd ⟨len, rest, hblob, hshort, hmatch⟩ (h.long blob rfl)
      · rw [allOrNothing_packBody_iff hlen]
        constructor
        · intro h
          refine ⟨?_, fun body' hsame _ => ?_⟩
          · rintro _ ⟨⟩ hshort
            have hlt := hshort.length_lt
            rw [length_packBody] at hlt
            omega
          · rw [← packBody_injective (FileRead.bytes.inj hsame)]
            exact h
        · intro h
          exact h.body body rfl hlen
    · refine ⟨fun _ => ⟨?_, ?_⟩, fun _ => allOrNothing_of_refused (loadFrom_overlong hlen env s)⟩
      · rintro _ ⟨⟩ hshort
        have hlt := hshort.length_lt
        omega
      · rintro body ⟨⟩ hfits
        exact absurd hfits hlen

/-- The body a new engine saves. -/
def freshBody : Bytes := ({} : Engine).serializeState

theorem read_freshBody : (loadState {}).run freshBody = (({} : Engine).writes, .ok ((), [])) := by
  have hbounds : WithinBounds {} ({} : Engine) ∧ StringsFit ({} : Engine) := by decide
  exact (load_serializeState (fresh_sound True 0 {}).toEncodable hbounds.2 hbounds.1 (by decide) {}).1

/-- **The tenant that was there stays**, though the file holds none. -/
theorem load_keeps_old_tenant :
    (createCapped.foldl act {}).tenantExists cappedTenant = true ∧
    encoded {} freshBody (.tenant cappedTenant) = none ∧
    ¬ AllOrNothing {} (createCapped.foldl act {}) (.bytes (packBody freshBody)) := by
  have hunwritten : ∀ p ∈ ({} : Engine).writes, p.slot ≠ .tenant cappedTenant := by decide
  have hsettings : (createCapped.foldl act {}).settings = {} := exec_settings _ _ _
  refine ⟨by decide +kernel, ?_, ?_⟩
  · unfold encoded
    rw [read_freshBody]
    exact lastWrite_eq_none.mpr hunwritten
  · rw [allOrNothing_packBody_iff (by decide +kernel)]
    unfold CleanBody
    rw [hsettings, read_freshBody]
    intro h
    obtain ⟨p, hp, hslot⟩ := h (.tenant cappedTenant) rfl (by decide +kernel)
    exact hunwritten p hp hslot

/-! ## The bounds check -/

/-- Magic, version and length test of `load_from` pass, and the length field reads `len`. -/
def PassesTests (blob : Bytes) (len : UInt64) : Prop :=
  ∃ rest, (readEnvelope.run blob).2 = .ok (len, rest) ∧ len = UInt64.ofNat rest.length - 4

theorem passesTests_iff (blob : Bytes) (len : UInt64) :
    PassesTests blob len ↔ ∃ rest, blob = envelopeOf len ++ rest ∧ len = UInt64.ofNat rest.length - 4 := by
  constructor
  · rintro ⟨rest, hread, hlen⟩
    rcases readEnvelope_cases blob with ⟨e, he⟩ | ⟨len', rest', hblob⟩
    · rw [he] at hread
      cases hread
    · rw [hblob, run_readEnvelope] at hread
      cases hread
      exact ⟨rest, hblob, hlen⟩
  · rintro ⟨rest, rfl, hlen⟩
    exact ⟨rest, by rw [run_readEnvelope], hlen⟩

/-- **The length test bounds the reads** on every file but those with less than four bytes after the
    header and a length field that is their number less four, modulo 2^64. -/
theorem bounds_check_iff {blob : Bytes} (hsize : blob.length < 2 ^ 64) :
    (∀ len, PassesTests blob len → 16 + len.toNat + 4 = blob.length) ↔ ¬ ShortBody blob := by
  constructor
  · rintro h ⟨len, rest, hblob, hshort, hlen⟩
    have hsum := h len ((passesTests_iff blob len).mpr ⟨rest, hblob, hlen⟩)
    rw [hblob, List.length_append, length_envelopeOf] at hsum
    omega
  · intro hlong len hpass
    obtain ⟨rest, hblob, hlen⟩ := (passesTests_iff blob len).mp hpass
    have hfour : 4 ≤ rest.length := by
      by_contra hshort
      exact hlong ⟨len, rest, hblob, not_le.mp hshort, hlen⟩
    rw [hblob, List.length_append, length_envelopeOf] at hsize ⊢
    have h4 : (4 : UInt64).toNat = 4 := rfl
    rw [hlen, UInt64.toNat_sub, UInt64.toNat_ofNat', h4]
    omega

theorem bounds_check_fresh :
    PassesTests (packBody freshBody) (UInt64.ofNat freshBody.length) ∧
    ∀ len, PassesTests (packBody freshBody) len → 16 + len.toNat + 4 = (packBody freshBody).length := by
  have hlong : ¬ ShortBody (packBody freshBody) := by
    intro h
    have hlt := h.length_lt
    rw [length_packBody] at hlt
    omega
  refine ⟨(passesTests_iff _ _).mpr ⟨freshBody ++ BinaryWriter.u32 ⟨crc32 freshBody⟩, ?_, ?_⟩,
    (bounds_check_iff (by decide +kernel)).mpr hlong⟩
  · unfold packBody
    rw [writeEnvelope_eq, List.append_assoc]
  · decide +kernel

/-- **A header alone passes the tests**: 16 bytes, with a length field of 2^64 - 4. -/
theorem bounds_check_wraps :
    (envelopeOf (0 - 4)).length = 16 ∧ PassesTests (envelopeOf (0 - 4)) (0 - 4) ∧
    (0 - 4 : UInt64).toNat = 2 ^ 64 - 4 ∧
    ¬ ∀ len, PassesTests (envelopeOf (0 - 4)) len → 16 + len.toNat + 4 = (envelopeOf (0 - 4)).length := by
  have hpass : PassesTests (envelopeOf (0 - 4)) (0 - 4) :=
    (passesTests_iff _ _).mpr ⟨[], (List.append_nil _).symm, rfl⟩
  refine ⟨rfl, hpass, rfl, fun h => ?_⟩
  have hsum := h _ hpass
  rw [length_envelopeOf] at hsum
  exact absurd hsum (by decide)

end Engine

end QuotaFabric
