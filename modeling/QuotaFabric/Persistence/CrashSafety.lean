import QuotaFabric.Persistence.Recovery
import QuotaFabric.Lib.AtomicFile

/-!
# Saves, failures and restarts

`save_to` writes the whole state under a second name, closes the file and renames it.  A process may be
killed at any point of this, and the next one starts with a new engine and `load_from`.

* `saveFile` — `save_to` with the files it works on; `saveFile_saveTo` — what it does to the engine;
* `Blank` — a new engine, as the constructor makes it or with a policy set;
* `Host` — one process after another on one file system, and `lastSaved`, the state of the last save that
  was completed;
* `crash_safe` — at every point of every run the next process starts from exactly that state.

Files are as the file system shows them to the next process.  A loss of power is not covered: `save_to`
flushes its own buffer and asks for no more.
-/

set_option autoImplicit false

namespace QuotaFabric

open AList AtomicFile

namespace Engine

/-! ## Saving to a file -/

/-- The name that `save_to` writes under first. -/
def tmpOf (path : Str) : Str := path ++ text ".tmp"

theorem tmpOf_ne (path : Str) : tmpOf path ≠ path := by
  intro h
  have hlen := congrArg List.length h
  unfold tmpOf at hlen
  rw [List.length_append, show (text ".tmp").length = 4 by decide +kernel] at hlen
  omega

/-- `save_to`, with the files it works on. -/
def saveFile (env : Env) (s : Engine) (path : Str) (a : Attempt) (files : Files Str UInt8) :
    (QuotaStatus × Engine) × Files Str UInt8 :=
  let files' := replace (tmpOf path) path s.saveBlob a files
  if !a.opened then ((.failure .resourceOverflow (text "cannot open temp file"), s), files')
  else if !(decide (s.saveBlob.length ≤ a.written) && a.closed) then
    ((.failure .resourceOverflow (text "write failed"), s), files')
  else if !a.renamed then ((.failure .resourceOverflow (text "rename failed for " ++ path), s), files')
  else (s.saveTo { env with fileOk := true } path, files')

/-- What `load_from` finds under a name. -/
def readFile (files : Files Str UInt8) (path : Str) : FileRead :=
  match files path with
  | none => .missing
  | some blob => .bytes blob

/-- The engine of a process that starts with `load_from` and goes on whatever comes of it. -/
def boot (fresh : Engine) (env : Env) (file : FileRead) : Engine :=
  match fresh.loadFrom env file with
  | none => fresh
  | some r => r.2

section Saving

variable {env : Env} {s : Engine} {path : Str} {a : Attempt} {files : Files Str UInt8}

/-- The engine and the verdict are those of `saveTo`, told whether the attempt was completed. -/
theorem saveFile_saveTo :
    (s.saveFile env path a files).1.2 =
      (s.saveTo { env with fileOk := a.completes s.saveBlob.length } path).2 ∧
    (s.saveFile env path a files).1.1.ok = a.completes s.saveBlob.length := by
  unfold saveFile saveTo Attempt.completes
  cases a.opened with
  | false => exact ⟨rfl, rfl⟩
  | true =>
    cases decide (s.saveBlob.length ≤ a.written) with
    | false => exact ⟨rfl, rfl⟩
    | true =>
      cases a.closed with
      | false => exact ⟨rfl, rfl⟩
      | true => cases a.renamed <;> exact ⟨rfl, rfl⟩

theorem saveFile_files :
    (s.saveFile env path a files).2 = replace (tmpOf path) path s.saveBlob a files := by
  unfold saveFile
  simp only
  split
  · rfl
  split
  · rfl
  split <;> rfl

theorem saveTo_sound {keyed : Prop} {cap : Nat} (h : Sound keyed cap s) : Sound keyed cap (s.saveTo env path).2 := by
  unfold saveTo
  split
  · apply Sound.emit
    exact ⟨⟨h.depth, h.groups, h.tenants, h.localQuota, h.groupQuota, h.reservations, h.funding, h.allocations,
      h.borrows, h.lends⟩, h.counters⟩
  · exact h

end Saving

/-! ## New engines -/

/-- No records and no counters. -/
structure Blank (s : Engine) : Prop where
  depth : s.policy.maxHierarchyDepth.toNat < 2 ^ 16
  groups : s.groups = ∅
  tenants : s.tenants = ∅
  localQuota : s.localQuota = ∅
  groupQuota : s.groupQuota = ∅
  reservations : s.reservations = ∅
  funding : s.funding = ∅
  allocations : s.allocations = ∅
  borrows : s.borrows = ∅
  lends : s.lends = ∅
  usage : s.usage = ∅

theorem blank_new (settings : EngineSettings) : Blank { settings := settings } :=
  ⟨by show (32 : UInt32).toNat < 2 ^ 16; decide, rfl, rfl, rfl, rfl, rfl, rfl, rfl, rfl, rfl, rfl⟩

theorem Blank.setPolicy {s : Engine} (h : Blank s) (env : Env) (policy : QuotaPolicy) :
    Blank (s.setPolicy env policy).2 := by
  unfold Engine.setPolicy
  split
  · exact h
  · rename_i hval
    have hdepth := validate_depth hval
    exact ⟨by show policy.maxHierarchyDepth.toNat < 2 ^ 16; omega, h.groups, h.tenants, h.localQuota,
      h.groupQuota, h.reservations, h.funding, h.allocations, h.borrows, h.lends, h.usage⟩

section Loading

variable {fresh s s' : Engine} {env : Env}

theorem Blank.usageOf (h : Blank fresh) (x : TenantId) : fresh.usageOf x = {} := by
  unfold Engine.usageOf
  rw [h.usage]
  rfl

theorem Blank.sound (h : Blank fresh) (keyed : Prop) (cap : Nat) : Sound keyed cap fresh where
  depth := h.depth
  groups _ _ hl := by rw [h.groups] at hl; cases hl
  tenants _ _ hl := by rw [h.tenants] at hl; cases hl
  localQuota _ _ hl := by rw [h.localQuota] at hl; cases hl
  groupQuota _ _ hl := by rw [h.groupQuota] at hl; cases hl
  reservations _ _ hl := by rw [h.reservations] at hl; cases hl
  funding _ _ hl := by rw [h.funding] at hl; cases hl
  allocations _ _ hl := by rw [h.allocations] at hl; cases hl
  borrows _ _ hl := by rw [h.borrows] at hl; cases hl
  lends _ _ hl := by rw [h.lends] at hl; cases hl
  counters t := by rw [h.usageOf]; exact ⟨ResourceVector.valid_empty, ResourceVector.valid_empty⟩

/-- A slot that is empty in some engine is empty in a new one. -/
theorem Blank.held (h : Blank fresh) {k : Slot} (hk : s.held k = none) : fresh.held k = none := by
  cases k <;> simp only [Engine.held, h.groups, h.tenants, h.localQuota, h.groupQuota, h.reservations,
    h.funding, h.allocations, h.borrows, h.lends] at hk ⊢ <;> first | rfl | cases hk

/-- The last assignment to a slot is what the slot held when the state was saved. -/
theorem lastWrite_writes {cap : Nat} (hs : Encodable True cap s) (k : Slot) :
    lastWrite Stored.slot s.writes k = s.held k := by
  cases hk : s.held k with
  | some p =>
    have hslot := slot_of_held hs hk
    apply lastWrite_of_unique ((mem_writes hs p).mpr (by rw [hslot]; exact hk)) hslot
    intro q hq hqk
    rw [mem_writes hs, hqk, hk] at hq
    exact (Option.some.inj hq).symm
  | none =>
    rw [lastWrite_eq_none]
    intro q hq hqk
    rw [mem_writes hs, hqk, hk] at hq
    cases hq

theorem Blank.restored (h : Blank fresh) {cap : Nat} (hs : Encodable True cap s) :
    Restored s ((fresh.storeAll s.writes).syncAll env) := by
  apply restored_of_held
  intro k
  rw [held_syncAll, held_storeAll, lastWrite_writes hs]
  cases hk : s.held k with
  | some p => rfl
  | none => rw [h.held hk]; rfl

/-- A restored state can be saved again. -/
theorem Restored.encodable (h : Restored s s') {cap : Nat} (hs : Encodable True cap s) : Encodable True cap s' where
  depth := by rw [h.maxHierarchyDepth]; exact hs.depth
  groups g gr hg := hs.groups g gr ((h.groups g).symm.trans hg)
  tenants t tn ht := hs.tenants t tn ((h.tenants t).symm.trans ht)
  localQuota t q hq := hs.localQuota t q ((h.localQuota t).symm.trans hq)
  groupQuota g q hq := hs.groupQuota g q ((h.groupQuota g).symm.trans hq)
  reservations rid r hr := hs.reservations rid r ((h.reservations rid).symm.trans hr)
  funding rid f hf := by
    obtain ⟨hkeyed, hburst, hlen⟩ := hs.funding rid f ((h.funding rid).symm.trans hf)
    have hloans : s'.borrows.entries.length = s.borrows.entries.length := (entries_perm h.borrows).length_eq
    refine ⟨fun _ => ?_, hburst, by rw [hloans]; exact hlen⟩
    obtain ⟨hrid, hbids⟩ := hkeyed trivial
    refine ⟨?_, fun bid hbid => ?_⟩
    · rw [← lookup_isSome, h.reservations, lookup_isSome]
      exact hrid
    · rw [← lookup_isSome, h.borrows, lookup_isSome]
      exact hbids bid hbid
  allocations aid a ha := hs.allocations aid a ((h.allocations aid).symm.trans ha)
  borrows bid b hb := hs.borrows bid b ((h.borrows bid).symm.trans hb)
  lends lid l hl := hs.lends lid l ((h.lends lid).symm.trans hl)

/-- What a process that starts in `fresh` can load again. -/
def Savable (fresh s : Engine) : Prop :=
  s.saveBlob.length < 2 ^ 63 ∧ WithinBounds fresh.settings s ∧ StringsFit s

instance (fresh s : Engine) : Decidable (Savable fresh s) := inferInstanceAs (Decidable (_ ∧ _ ∧ _))

/-- The engine that `load_from` makes of the file of `s`. -/
def reloaded (fresh : Engine) (env : Env) (s : Engine) : Engine := (fresh.storeAll s.truncated.writes).syncAll env

theorem loadFrom_savable (hs : Sound True 0 s) (hsave : Savable fresh s) :
    fresh.loadFrom env (.bytes s.saveBlob) = some (.success, fresh.reloaded env s) := by
  obtain ⟨hfile, hbounds, hstrings⟩ := hsave
  have hread := hs.toEncodable.endsIff (Nat.zero_le fresh.settings.maxBorrows.toNat) (hbounds.sizesFit hstrings)
  rw [loadFrom_saveBlob hfile]
  unfold deserializeState
  simp only [hread.ends ⟨hbounds, hstrings⟩]
  rfl

theorem reloaded_recomputed {t : TenantId} (ht : (fresh.reloaded env s).tenantExists t = true) :
    Recomputed env (fresh.reloaded env s) t := by
  unfold reloaded at ht ⊢
  rw [tenantExists_syncAll] at ht
  exact recomputed_syncAll env ht

theorem Blank.reloaded_sound (h : Blank fresh) (hs : Sound True 0 s) : Sound True 0 (fresh.reloaded env s) := by
  have henc : Encodable True 0 (fresh.reloaded env s) := (h.restored hs.toEncodable.truncated).encodable hs.toEncodable.truncated
  refine ⟨henc, fun t => ?_⟩
  cases ht : (fresh.reloaded env s).tenantExists t with
  | true =>
    have hsync := (reloaded_recomputed ht).toSyncedAt
    rw [hsync.consumption, hsync.reserved]
    exact ⟨fun d => ⟨computedConsumed_nonNeg henc.recordsNonNeg t d, ResourceVector.sumOf_le_max _ d⟩,
      fun d => ⟨recomputedReserved_nonNeg henc.recordsNonNeg t d, ResourceVector.sumOf_le_max _ d⟩⟩
  | false =>
    -- no tenant, so nothing was counted for it
    have hu : (fresh.reloaded env s).usageOf t = {} := by
      unfold reloaded at ht ⊢
      rw [tenantExists_syncAll] at ht
      have husage : (fresh.storeAll s.truncated.writes).usage = fresh.usage :=
        (storeAll_frame s.truncated.writes ⟨rfl, rfl, rfl⟩).usage
      rw [usageOf_syncAll_stranger ht]
      unfold Engine.usageOf
      rw [husage, h.usage]
      rfl
    rw [hu]
    exact ⟨ResourceVector.valid_empty, ResourceVector.valid_empty⟩

end Loading

/-! ## The coordinator's start -/

/-- The policy that the coordinator sets before anything else. -/
def defaultPolicy : QuotaPolicy :=
  { name := text "quota-fabric-default", description := text "default coordinator policy" }

def coordinatorEngine (env : Env) : Engine := (({} : Engine).setPolicy env defaultPolicy).2

/-- The engine of `main`: an empty `--state` is none, and what `load_from` answers is not looked at. -/
def coordinatorStart (env env' : Env) (statePath : Str) (files : Files Str UInt8) : Engine :=
  if !statePath.isEmpty && (files statePath).isSome then (coordinatorEngine env).boot env' (readFile files statePath)
  else coordinatorEngine env

theorem coordinatorEngine_blank (env : Env) : Blank (coordinatorEngine env) := (blank_new {}).setPolicy env _

/-- Looking whether the file is there first makes no difference. -/
theorem coordinatorStart_eq (env env' : Env) {statePath : Str} (h : statePath ≠ []) (files : Files Str UInt8) :
    coordinatorStart env env' statePath files = (coordinatorEngine env).boot env' (readFile files statePath) := by
  unfold coordinatorStart
  have hne : statePath.isEmpty = false := List.isEmpty_eq_false_iff.mpr h
  cases hf : files statePath with
  | some blob => simp [hne]
  | none =>
    simp only [Option.isSome_none, Bool.and_false, Bool.false_eq_true, if_false]
    unfold boot readFile
    rw [hf]
    rfl

end Engine

/-! ## Processes on one file system -/

/-- The engine of the running process, and the files. -/
structure Host where
  engine : Engine
  files : Files Str UInt8

/-- What happens on the host.  `killed` is a process that ends within a save, having got as far as the
    attempt says; the next one starts at once. -/
inductive Deed where
  | call (c : Env × Call)
  | save (env : Env) (path : Str) (a : Attempt)
  | restart (env : Env)
  | killed (path : Str) (a : Attempt) (env : Env)

namespace Host

open Engine

/-- Every process starts with the engine `fresh` and loads `path`. -/
def step (fresh : Engine) (path : Str) (h : Host) : Deed → Host
  | .call c => { h with engine := h.engine.after c }
  | .save env p a =>
    let r := h.engine.saveFile env p a h.files
    ⟨r.1.2, r.2⟩
  | .restart env => { h with engine := fresh.boot env (readFile h.files path) }
  | .killed p a env =>
    let files := replace (tmpOf p) p h.engine.saveBlob a h.files
    ⟨fresh.boot env (readFile files path), files⟩

/-- Is this a completed save under `path`? -/
def saves (path : Str) (h : Host) : Deed → Bool
  | .save _ p a => decide (p = path) && a.completes h.engine.saveBlob.length
  | .killed p a _ => decide (p = path) && a.completes h.engine.saveBlob.length
  | _ => false

/-- A save that does not write beside onto `path`, and that leaves under `path` only what a new engine
    can load. -/
def SafeSave (fresh : Engine) (path : Str) (h : Host) (p : Str) : Prop :=
  tmpOf p ≠ path ∧ (p = path → Savable fresh h.engine)

/-- New ids and machine words for the calls; saves as described. -/
def Careful (fresh : Engine) (path : Str) (h : Host) : Deed → Prop
  | .call c => plainCall h.engine c ∧ ∀ p, c.2 ≠ .saveTo p
  | .save _ p _ => SafeSave fresh path h p
  | .restart _ => True
  | .killed p _ _ => SafeSave fresh path h p

/-- The state of the last completed save under `path`. -/
def lastSaved (fresh : Engine) (path : Str) (h : Host) (l : List Deed) : Option Engine :=
  (l.foldl (fun (x : Host × Option Engine) d =>
    (step fresh path x.1 d, if saves path x.1 d then some x.1.engine else x.2)) (h, none)).2

section Runs

variable {fresh : Engine} {path : Str} {h₀ h : Host} {l : List Deed}

theorem lastSaved_snoc (d : Deed) :
    lastSaved fresh path h₀ (l ++ [d]) =
      if saves path (l.foldl (step fresh path) h₀) d then some (l.foldl (step fresh path) h₀).engine
      else lastSaved fresh path h₀ l := by
  have hhost : ∀ (l : List Deed) (x : Host × Option Engine),
      (l.foldl (fun (x : Host × Option Engine) d =>
        (step fresh path x.1 d, if saves path x.1 d then some x.1.engine else x.2)) x).1 =
        l.foldl (step fresh path) x.1 := by
    intro l
    induction l with
    | nil => exact fun _ => rfl
    | cons d l ih => exact fun x => ih _
  unfold lastSaved
  rw [List.foldl_append, List.foldl_cons, List.foldl_nil, hhost]

/-- The state file is the file of the last completed save, and both engines can be saved. -/
structure SavedInv (fresh : Engine) (path : Str) (saved : Option Engine) (h : Host) : Prop where
  engine : Sound True 0 h.engine
  loads : ∀ s, saved = some s → Sound True 0 s ∧ Savable fresh s
  file : h.files path = saved.map saveBlob

/-- The next process starts from the saved state. -/
theorem SavedInv.boot_sound {saved : Option Engine} {files : Files Str UInt8} (hfresh : Blank fresh)
    (hsaved : ∀ s, saved = some s → Sound True 0 s ∧ Savable fresh s)
    (hfile : files path = saved.map saveBlob) (env : Env) :
    Sound True 0 (fresh.boot env (readFile files path)) := by
  unfold boot readFile
  cases saved with
  | none =>
    rw [hfile]
    exact hfresh.sound True 0
  | some s =>
    obtain ⟨hs, hsave⟩ := hsaved s rfl
    rw [hfile]
    simp only [Option.map_some]
    rw [loadFrom_savable hs hsave]
    exact hfresh.reloaded_sound hs

/-- What a save leaves under `path`, whether it is completed, fails or is cut off. -/
theorem SavedInv.after_attempt {saved : Option Engine} (hinv : SavedInv fresh path saved h) {p : Str}
    (hsafe : SafeSave fresh path h p) (a : Attempt) {saved' : Option Engine}
    (hsaved' : saved' = if decide (p = path) && a.completes h.engine.saveBlob.length then some h.engine else saved) :
    (∀ s, saved' = some s → Sound True 0 s ∧ Savable fresh s) ∧
      replace (tmpOf p) p h.engine.saveBlob a h.files path = saved'.map saveBlob := by
  subst hsaved'
  by_cases hp : p = path
  · subst hp
    rw [replace_target (tmpOf_ne p)]
    cases hc : a.completes h.engine.saveBlob.length with
    | true =>
      simp only [decide_true, Bool.and_self, if_true]
      exact ⟨fun s hs => by cases hs; exact ⟨hinv.engine, hsafe.2 rfl⟩, rfl⟩
    | false =>
      simp only [decide_true, Bool.and_false, Bool.false_eq_true, if_false]
      exact ⟨hinv.loads, hinv.file⟩
  · rw [replace_other hsafe.1.symm (Ne.symm hp)]
    simp only [hp, decide_false, Bool.false_and, Bool.false_eq_true, if_false]
    exact ⟨hinv.loads, hinv.file⟩

theorem step_savedInv (hfresh : Blank fresh) {saved : Option Engine} (hinv : SavedInv fresh path saved h)
    {d : Deed} (hd : Careful fresh path h d) :
    SavedInv fresh path (if saves path h d then some h.engine else saved) (step fresh path h d) := by
  cases d with
  | call c => exact ⟨exec_sound hinv.engine hd.1, hinv.loads, hinv.file⟩
  | restart env => exact ⟨SavedInv.boot_sound hfresh hinv.loads hinv.file env, hinv.loads, hinv.file⟩
  | save env p a =>
    obtain ⟨hsaved, hfile⟩ := hinv.after_attempt hd a rfl
    refine ⟨?_, hsaved, ?_⟩
    · show Sound True 0 (h.engine.saveFile env p a h.files).1.2
      rw [saveFile_saveTo.1]
      exact saveTo_sound hinv.engine
    · show (h.engine.saveFile env p a h.files).2 path = _
      rw [saveFile_files]
      exact hfile
  | killed p a env =>
    obtain ⟨hsaved, hfile⟩ := hinv.after_attempt hd a rfl
    exact ⟨SavedInv.boot_sound hfresh hsaved hfile env, hsaved, hfile⟩

/-- **A crash never leaves a half-written state.**  Over any run of calls, saves that may fail at any step,
    processes killed at any point of a save, and restarts, the state file is at every moment absent, when
    no save has been completed, or the whole file of the last completed one; and the next process then
    loads it without an error, restores every record of that state, and recomputes every counter. -/
theorem crash_safe {files₀ : Files Str UInt8} (hfresh : Blank fresh) (hno : files₀ path = none)
    (hrun : Run (step fresh path) (Careful fresh path) ⟨fresh, files₀⟩ l h) :
    h.files path = (lastSaved fresh path ⟨fresh, files₀⟩ l).map saveBlob ∧
    ∀ env,
      (lastSaved fresh path ⟨fresh, files₀⟩ l = none →
        fresh.loadFrom env (readFile h.files path) = fresh.refuseLoad (text "cannot open file")) ∧
      ∀ s, lastSaved fresh path ⟨fresh, files₀⟩ l = some s →
        ∃ s', fresh.loadFrom env (readFile h.files path) = some (.success, s') ∧
          Restored s.truncated s' ∧ ∀ t, s'.tenantExists t = true → Recomputed env s' t := by
  have hinv : SavedInv fresh path (lastSaved fresh path ⟨fresh, files₀⟩ l) h := by
    have hstart : SavedInv fresh path none (⟨fresh, files₀⟩ : Host) :=
      ⟨hfresh.sound True 0, fun _ hs => (by cases hs), hno⟩
    refine (hrun.invariant_hist (I := fun l h => h = l.foldl (step fresh path) ⟨fresh, files₀⟩ ∧
      SavedInv fresh path (lastSaved fresh path ⟨fresh, files₀⟩ l) h) ⟨rfl, hstart⟩ ?_).2
    rintro l h d ⟨heq, hinv⟩ hd
    rw [lastSaved_snoc, ← heq]
    exact ⟨by rw [List.foldl_append, ← heq]; rfl, step_savedInv hfresh hinv hd⟩
  refine ⟨hinv.file, fun env => ⟨fun hnone => ?_, fun s hsome => ?_⟩⟩
  · unfold readFile
    rw [hinv.file, hnone]
    rfl
  · obtain ⟨hs, hsave⟩ := hinv.loads s hsome
    refine ⟨fresh.reloaded env s, ?_, hfresh.restored hs.toEncodable.truncated, fun t => reloaded_recomputed⟩
    unfold readFile
    rw [hinv.file, hsome]
    exact loadFrom_savable hs hsave

/-- A tenant is created and the state saved; with a second tenant the next save is cut off after ten
    bytes. -/
def cutOff : List Deed :=
  [.call (.numbered 1, .createTenant cappedTenant (text "capped") none 100),
   .save {} (text "state") { written := 4096 },
   .call (.numbered 2, .createTenant lendingTenant (text "lending") none 100),
   .killed (text "state") { written := 10, closed := false, renamed := false } {}]

theorem crash_safe_cutOff :
    ∃ s s', lastSaved {} (text "state") ⟨{}, fun _ => none⟩ cutOff = some s ∧
      ({} : Engine).loadFrom {} (readFile
        (cutOff.foldl (step {} (text "state")) ⟨{}, fun _ => none⟩).files (text "state")) = some (.success, s') ∧
      Restored s.truncated s' := by
  have hrun : Run (step {} (text "state")) (Careful {} (text "state")) ⟨{}, fun _ => none⟩ cutOff
      (cutOff.foldl (step {} (text "state")) ⟨{}, fun _ => none⟩) := by
    refine .cons ⟨⟨by decide +kernel, numbered_inRange 1, by show ResourceVector.Valid _; decide⟩, nofun⟩ ?_
    refine .cons ⟨tmpOf_ne _, fun _ => by decide +kernel⟩ ?_
    refine .cons ⟨⟨by decide +kernel, numbered_inRange 2, by show ResourceVector.Valid _; decide⟩, nofun⟩ ?_
    exact .cons ⟨tmpOf_ne _, fun _ => by decide +kernel⟩ (.nil _)
  obtain ⟨s, hs⟩ := Option.isSome_iff_exists.mp
    (show (lastSaved {} (text "state") ⟨{}, fun _ => none⟩ cutOff).isSome = true by decide +kernel)
  obtain ⟨s', hload, hsame, -⟩ := ((crash_safe (blank_new {}) rfl hrun).2 {}).2 s hs
  exact ⟨s, s', hs, hload, hsame⟩

end Runs

end Host

end QuotaFabric
