import QuotaFabric.Engine.Controls
import QuotaFabric.Engine.Steps
import QuotaFabric.Lib.LogWindow

/-!
# What a call appends to the event log

`emit_event` appends to a log and drops what exceeds the retention bound.  No call reads the log.

* `withLog` — the same engine with another log and another bound;
* `Noted` — what a change of the engine appends, stamped with the authority of the moment;
* `Logged` — if it appends nothing, it changes nothing but the sequence number and default counters
  (`Quiet`);
* `Drawn` — the same for the funding loop of `reserve`;
* `exec_audited`, `exec_appends` — every call, as such a change.
-/

set_option autoImplicit false

namespace QuotaFabric

open LogWindow

/-- The entry carries the authority `c`. -/
structure QuotaEvent.MadeUnder (e : QuotaEvent) (c : Controls) : Prop where
  epoch : e.epoch = c.epoch
  quotaGeneration : e.quotaGeneration = c.quotaGeneration
  policyGeneration : e.policyGeneration = c.policy.generation

namespace Engine

/-- The engine with the log `es` and the retention bound `n`. -/
def withLog (n : UInt32) (es : List QuotaEvent) (s : Engine) : Engine :=
  { s with events := es, settings := { s.settings with maxEventRetention := n } }

/-- The entry `emit_event` makes. -/
def event (env : Env) (s : Engine) (type : EventType) (tenant : TenantId) (detail : Str) : QuotaEvent :=
  { type := type, at_ := env.eventAt, tenant := tenant, quotaGeneration := s.quotaGeneration
    policyGeneration := s.policy.generation, epoch := s.epoch, detail := detail }

/-- Everything but the log and the sequence number is the same; default counters may have been
    entered for a tenant that had none. -/
structure Quiet (s s' : Engine) : Prop extends SameConfig s s' where
  settings : s'.settings = s.settings
  persistPath : s'.persistPath = s.persistPath
  reservations : s'.reservations = s.reservations
  funding : s'.funding = s.funding
  allocations : s'.allocations = s.allocations
  borrows : s'.borrows = s.borrows
  lends : s'.lends = s.lends
  usage : ∀ x, s'.usageOf x = s.usageOf x

theorem Quiet.refl (s : Engine) : Quiet s s :=
  ⟨.refl s, rfl, rfl, rfl, rfl, rfl, rfl, rfl, fun _ => rfl⟩

theorem Quiet.trans {s s' s'' : Engine} (h : Quiet s s') (h' : Quiet s' s'') : Quiet s s'' :=
  ⟨h.toSameConfig.trans h'.toSameConfig, h'.settings.trans h.settings, h'.persistPath.trans h.persistPath,
    h'.reservations.trans h.reservations, h'.funding.trans h.funding, h'.allocations.trans h.allocations,
    h'.borrows.trans h.borrows, h'.lends.trans h.lends, fun x => (h'.usage x).trans (h.usage x)⟩

theorem Quiet.touch (s : Engine) (t : TenantId) : Quiet s (s.modifyUsage t id) :=
  ⟨⟨rfl, rfl, rfl, rfl, rfl, rfl, rfl⟩, rfl, rfl, rfl, rfl, rfl, rfl, rfl, usageOf_modifyUsage_id s t⟩

section Reads

variable (env : Env) (n : UInt32) (es : List QuotaEvent) (s : Engine)

theorem withLog_self : withLog s.settings.maxEventRetention s.events s = s := rfl

theorem sameConfig_withLog : SameConfig s (withLog n es s) := ⟨rfl, rfl, rfl, rfl, rfl, rfl, rfl⟩

@[simp] theorem staleEpoch_withLog (auth : Authority) : (withLog n es s).staleEpoch auth = s.staleEpoch auth := rfl

@[simp] theorem staleQuotaGen_withLog (auth : Authority) :
    (withLog n es s).staleQuotaGen auth = s.staleQuotaGen auth := rfl

@[simp] theorem validAuthority_withLog (auth : Authority) :
    (withLog n es s).validAuthority auth = s.validAuthority auth := rfl

@[simp] theorem tenantExists_withLog (t : TenantId) : (withLog n es s).tenantExists t = s.tenantExists t := rfl

@[simp] theorem groupExists_withLog (g : TenantGroupId) : (withLog n es s).groupExists g = s.groupExists g := rfl

@[simp] theorem reservations_withLog : (withLog n es s).reservations = s.reservations := rfl

@[simp] theorem allocations_withLog : (withLog n es s).allocations = s.allocations := rfl

@[simp] theorem borrows_withLog : (withLog n es s).borrows = s.borrows := rfl

@[simp] theorem localQuota_withLog : (withLog n es s).localQuota = s.localQuota := rfl

@[simp] theorem effectiveLattice_withLog (t : TenantId) :
    (withLog n es s).effectiveLattice t = s.effectiveLattice t := (sameConfig_withLog n es s).effectiveLattice t

@[simp] theorem classify_withLog (t : TenantId) (req : ResourceVector) :
    (withLog n es s).classify env t req = s.classify env t req :=
  classify_congr (sameConfig_withLog n es s) (fun _ => rfl) rfl t req

@[simp] theorem canLend_withLog (lender : TenantId) (amount : ResourceVector) :
    (withLog n es s).canLend lender amount = s.canLend lender amount := by
  unfold canLend
  simp only [effectiveLattice_withLog, availableToLend_congr (sameConfig_withLog n es s) (fun _ => rfl)]

@[simp] theorem chooseLender_withLog (borrower : TenantId) (amount : ResourceVector) :
    (withLog n es s).chooseLender env borrower amount = s.chooseLender env borrower amount := by
  unfold chooseLender
  simp only [canLend_withLog]
  rfl

theorem emitEvent_withLog (type : EventType) (t : TenantId) (detail : Str) :
    (withLog n es s).emitEvent env type t detail =
      withLog n (push n.toNat es [s.event env type t detail]) (s.emitEvent env type t detail) := rfl

end Reads

/-! ## What a change appends -/

/-- What `f` appends to the log of `s`, stamped with the authority `s` has before and after. -/
structure Noted (f : Engine → Engine) (s : Engine) (new : List QuotaEvent) : Prop where
  writes : Writes withLog UInt32.toNat f s new
  controls : (f s).controls = s.controls
  stamped : ∀ e ∈ new, e.MadeUnder s.controls

/-- The same, and nothing changes in silence. -/
structure Logged (f : Engine → Engine) (s : Engine) (new : List QuotaEvent) : Prop extends Noted f s new where
  quiet : new = [] → Quiet s (f s)

section Rules

variable {f g : Engine → Engine} {s : Engine} {new new' : List QuotaEvent}

/-- A change that leaves the log alone. -/
theorem Noted.change (hf : ∀ k es, f (withLog k es s) = withLog k es (f s)) (hc : (f s).controls = s.controls) :
    Noted f s [] := ⟨.of_commutes hf, hc, fun _ he => absurd he List.not_mem_nil⟩

theorem Noted.trans (hf : Noted f s new) (hg : Noted g (f s) new') :
    Noted (fun s => g (f s)) s (new ++ new') := by
  refine ⟨hf.writes.trans hg.writes, hg.controls.trans hf.controls, fun e he => ?_⟩
  rcases List.mem_append.mp he with he | he
  · exact hf.stamped e he
  · rw [← hf.controls]
    exact hg.stamped e he

/-- An event after a change. -/
theorem Noted.emit (hf : Noted f s new) (env : Env) (type : EventType) (t : TenantId) (detail : Str) :
    Noted (fun s => (f s).emitEvent env type t detail) s (new ++ [(f s).event env type t detail]) := by
  refine hf.trans (g := fun s => s.emitEvent env type t detail)
    ⟨fun k es => emitEvent_withLog env k es (f s) type t detail, rfl, fun e he => ?_⟩
  rw [List.mem_singleton.mp he]
  exact ⟨rfl, rfl, rfl⟩

theorem Noted.logged (hf : Noted f s new) (hne : new ≠ []) : Logged f s new :=
  ⟨hf, fun hnil => absurd hnil hne⟩

theorem Logged.refl (s : Engine) : Logged id s [] := ⟨.change (fun _ _ => rfl) rfl, fun _ => .refl s⟩

theorem Logged.trans (hf : Logged f s new) (hg : Logged g (f s) new') : Logged (fun s => g (f s)) s (new ++ new') := by
  refine ⟨hf.toNoted.trans hg.toNoted, fun hnil => ?_⟩
  obtain ⟨h1, h2⟩ := List.append_eq_nil_iff.mp hnil
  exact (hf.quiet h1).trans (hg.quiet h2)

/-- A change and the event that reports it. -/
theorem Noted.emit_logged (hf : Noted f s new) (env : Env) (type : EventType) (t : TenantId) (detail : Str) :
    Logged (fun s => (f s).emitEvent env type t detail) s (new ++ [(f s).event env type t detail]) :=
  (hf.emit env type t detail).logged (List.append_ne_nil_of_right_ne_nil _ (List.cons_ne_nil _ _))

/-- Functions that agree on the engine with any log. -/
theorem Logged.congr (hg : Logged g s new) (h : ∀ k es, f (withLog k es s) = g (withLog k es s)) : Logged f s new := by
  have hself : f s = g s := h s.settings.maxEventRetention s.events
  refine ⟨⟨fun k es => ?_, ?_, hg.stamped⟩, fun hnil => ?_⟩
  · rw [h, hself]
    exact hg.writes k es
  · rw [hself]
    exact hg.controls
  · rw [hself]
    exact hg.quiet hnil

end Rules

/-! ## Counters and loans -/

section Loans

variable (env : Env) (s : Engine)

/-- `borrow_impl` before its events. -/
def bookLoan (k : ResourceDimension) (lender borrower : TenantId) (amount : ResourceVector)
    (reservation : Option ReservationId) : Engine :=
  let l := s.newLending env k lender borrower amount
  let b := s.newBorrow env k lender borrower amount reservation
  let s₁ := { s with lends := s.lends.emplace l.id l, borrows := s.borrows.emplace b.id b }
  let s₂ := s₁.modifyUsage lender fun u => { u with lent := u.lent.accum amount }
  s₂.modifyUsage borrower fun u =>
    { u with
      borrowedConsumed := u.borrowedConsumed.accum amount
      debt := u.debt.accum amount }

theorem openLoan_logged (k : ResourceDimension) (lender borrower : TenantId) (amount : ResourceVector)
    (reservation : Option ReservationId) :
    ∃ new, new ≠ [] ∧ Logged (fun s => s.openLoan env k lender borrower amount reservation) s new := by
  have hbook : Noted (fun s => s.bookLoan env k lender borrower amount reservation) s [] :=
    .change (fun _ _ => rfl) rfl
  have hborrow := hbook.emit env .borrow borrower (text "borrowed " ++ amount.toStr ++ text " from lender")
  exact ⟨_, List.append_ne_nil_of_right_ne_nil _ (List.cons_ne_nil _ _),
    hborrow.emit_logged env .lend lender (text "lent " ++ amount.toStr ++ text " to borrower")⟩

theorem closeLending_withLog (n : UInt32) (es : List QuotaEvent) (lid : LendingId) (ret : ResourceVector) :
    (withLog n es s).closeLending lid ret = withLog n es (s.closeLending lid ret) := by
  unfold closeLending
  rw [show (withLog n es s).lends = s.lends from rfl]
  cases s.lends.lookup lid with
  | none => rfl
  | some l =>
    simp only
    split <;> rfl

theorem closeLoan_logged (bid : BorrowId) (b : BorrowRecord) (ret : ResourceVector) :
    ∃ new, new ≠ [] ∧ Logged (fun s => s.closeLoan env bid b ret) s new := by
  have hcontrols : ((s.closeBorrow bid b ret).closeLending b.lending ret).controls = s.controls := by
    have h := (standing_closeLending (s.closeBorrow bid b ret) b.lending ret).trans (standing_closeBorrow s bid b ret)
    exact congrArg Standing.controls h
  have hclose : Noted (fun s => (s.closeBorrow bid b ret).closeLending b.lending ret) s [] :=
    .change (fun k es => closeLending_withLog (s.closeBorrow bid b ret) k es b.lending ret) hcontrols
  exact ⟨_, List.cons_ne_nil _ _, hclose.emit_logged env .recall b.borrower (text "borrow returned")⟩

/-- A borrow given back: nothing happens a second time. -/
theorem returnBorrow_logged {bid : BorrowId} {b : BorrowRecord} (hb : s.borrows.lookup bid = some b)
    (amount : ResourceVector) : ∃ new, Logged (fun s => (s.returnBorrow env bid amount).2) s new := by
  cases hrec : b.recalled with
  | true =>
    refine ⟨[], (Logged.refl s).congr fun k es => ?_⟩
    unfold returnBorrow
    rw [show (withLog k es s).borrows.lookup bid = some b from hb]
    simp only [hrec, if_true, id]
  | false =>
    obtain ⟨new, -, hnew⟩ := closeLoan_logged env s bid b (ResourceVector.min amount b.consumed)
    refine ⟨new, hnew.congr fun k es => ?_⟩
    unfold returnBorrow
    rw [show (withLog k es s).borrows.lookup bid = some b from hb]
    simp only [hrec, Bool.false_eq_true, if_false]

theorem returnListed_logged (bid : BorrowId) : ∃ new, Logged (fun s => s.returnListed env bid) s new := by
  cases hb : s.borrows.lookup bid with
  | some b =>
    obtain ⟨new, hnew⟩ := returnBorrow_logged env s hb b.consumed
    refine ⟨new, hnew.congr fun k es => ?_⟩
    have hmem : bid ∈ (withLog k es s).borrows := AList.mem_of_lookup hb
    have hlookup : (withLog k es s).borrows.lookup bid = some b := hb
    unfold returnListed AList.emplace
    simp only [if_pos hmem, hlookup, Option.getD_some]
  | none =>
    -- the subscript makes a record, which is then given back
    obtain ⟨new, hne, hnew⟩ := closeLoan_logged env { s with borrows := s.borrows.emplace bid {} } bid {}
      (ResourceVector.min ({} : BorrowRecord).consumed ({} : BorrowRecord).consumed)
    have hadopt : Noted (fun s : Engine => { s with borrows := s.borrows.emplace bid {} }) s [] :=
      .change (fun _ _ => rfl) rfl
    refine ⟨new, ((hadopt.trans hnew.toNoted).logged hne).congr fun k es => ?_⟩
    have hnot : bid ∉ s.borrows := AList.lookup_eq_none.mp hb
    have hnew' : (s.borrows.emplace bid ({} : BorrowRecord)).lookup bid = some {} := by
      rw [AList.emplace_of_notMem hnot, AList.lookup_insert]
    have hlookup : ({ withLog k es s with borrows := (withLog k es s).borrows.emplace bid {} } : Engine).borrows.lookup
        bid = some {} := hnew'
    unfold returnListed returnBorrow
    simp only [hlookup, Option.getD_some]
    rfl

theorem returnAll_logged : ∀ (bids : List BorrowId) (s : Engine),
    ∃ new, Logged (fun s => s.returnAll env bids) s new
  | [], s => ⟨[], .refl s⟩
  | bid :: bids, s => by
    obtain ⟨new, hnew⟩ := returnListed_logged env s bid
    obtain ⟨new', hnew'⟩ := returnAll_logged bids (s.returnListed env bid)
    exact ⟨new ++ new', hnew.trans hnew'⟩

end Loans

/-! ## The funding loop -/

/-- The outcome of a step of the loop, with another log. -/
def relog (n : UInt32) (es : List QuotaEvent) : Except (QuotaStatus × Engine) Draw → Except (QuotaStatus × Engine) Draw
  | .error e => .error (e.1, withLog n es e.2)
  | .ok st => .ok { st with engine := withLog n es st.engine }

/-- What a part `f` of the loop appends to the log of `st`. -/
structure Drawn (f : Draw → Except (QuotaStatus × Engine) Draw) (st : Draw) (new : List QuotaEvent) : Prop where
  writes : ∀ n es, f { st with engine := withLog n es st.engine } = relog n (push n.toNat es new) (f st)
  controls : (drawnEngine (f st)).controls = st.engine.controls
  stamped : ∀ e ∈ new, e.MadeUnder st.engine.controls
  quiet : new = [] → Quiet st.engine (drawnEngine (f st))

section Funding

variable (env : Env) (eff : ResourceQuota) (cb : ResourceVector) (t : TenantId) (req : ResourceVector)

/-- A part of the loop that goes on with the engine `g` makes. -/
theorem Drawn.goesOn {f : Draw → Except (QuotaStatus × Engine) Draw} {st : Draw} {g : Engine → Engine}
    {new : List QuotaEvent} (hg : Logged g st.engine new) (burst : ResourceVector) (bids : List BorrowId)
    (h : ∀ k es, f { st with engine := withLog k es st.engine } =
      .ok { engine := g (withLog k es st.engine), burst := burst, borrowIds := bids }) : Drawn f st new := by
  have hself : f st = .ok { engine := g st.engine, burst := burst, borrowIds := bids } :=
    h st.engine.settings.maxEventRetention st.engine.events
  refine ⟨fun n es => ?_, ?_, hg.stamped, fun hnil => ?_⟩
  · rw [h, hself, hg.writes n es]
    rfl
  · rw [hself]
    exact hg.controls
  · rw [hself]
    exact hg.quiet hnil

/-- A part of the loop that stops with the engine `g` makes. -/
theorem Drawn.stops {f : Draw → Except (QuotaStatus × Engine) Draw} {st : Draw} {g : Engine → Engine}
    {new : List QuotaEvent} (hg : Logged g st.engine new) (status : QuotaStatus)
    (h : ∀ k es, f { st with engine := withLog k es st.engine } = .error (status, g (withLog k es st.engine))) :
    Drawn f st new := by
  have hself : f st = .error (status, g st.engine) := h st.engine.settings.maxEventRetention st.engine.events
  refine ⟨fun n es => ?_, ?_, hg.stamped, fun hnil => ?_⟩
  · rw [h, hself, hg.writes n es]
    rfl
  · rw [hself]
    exact hg.controls
  · rw [hself]
    exact hg.quiet hnil

theorem fundDimension_logs (st : Draw) (d : ResourceDimension) :
    ∃ new, Drawn (fun st => fundDimension env eff cb t req st d) st new := by
  cases hskip : (!req.present d || isConsumable d) with
  | true =>
    refine ⟨[], .goesOn (.refl st.engine) st.burst st.borrowIds fun k es => ?_⟩
    unfold fundDimension
    rw [if_pos hskip]
    rfl
  | false =>
    have hno : ¬ (!req.present d || isConsumable d) = true := by simp [hskip]
    obtain ⟨nc, hnc⟩ : ∃ nc, nc = satAdd (cb.get d) (req.get d) := ⟨_, rfl⟩
    obtain ⟨burst, hburst⟩ : ∃ burst, burst =
        if burstPart env eff d (cb.get d) nc > 0 then (st.burst.set d (burstPart env eff d (cb.get d) nc)).2
        else st.burst := ⟨_, rfl⟩
    by_cases hborr : borrowPart eff d (cb.get d) nc > 0
    · cases hl : st.engine.chooseLender env t (ResourceVector.fromScalar d (borrowPart eff d (cb.get d) nc)) with
      | none =>
        obtain ⟨new, hnew⟩ := returnAll_logged env st.borrowIds st.engine
        refine ⟨new, .stops hnew (.failure .hardLimitExceeded
          (text "borrow failed: " ++ text "no lender with borrowable capacity")) fun k es => ?_⟩
        unfold fundDimension
        rw [if_neg hno]
        simp only [← hnc]
        rw [if_pos hborr, borrowImpl_of_no_lender ((chooseLender_withLog env k es st.engine _ _).trans hl)]
        rfl
      | some lender =>
        obtain ⟨new, -, hnew⟩ := openLoan_logged env st.engine d lender t
          (ResourceVector.fromScalar d (borrowPart eff d (cb.get d) nc)) none
        refine ⟨new, .goesOn hnew burst (st.borrowIds ++ [env.borrowId d]) fun k es => ?_⟩
        unfold fundDimension
        rw [if_neg hno]
        simp only [← hnc]
        rw [if_pos hborr, borrowImpl_of_lender ((chooseLender_withLog env k es st.engine _ _).trans hl), ← hburst]
        rfl
    · refine ⟨[], .goesOn (.refl st.engine) burst st.borrowIds fun k es => ?_⟩
      unfold fundDimension
      rw [if_neg hno]
      simp only [← hnc]
      rw [if_neg hborr, ← hburst]
      rfl

theorem fundLoop_logs : ∀ (ds : List ResourceDimension) (st : Draw),
    ∃ new, Drawn (fun st => fundLoop env eff cb t req ds st) st new
  | [], st => ⟨[], .goesOn (.refl st.engine) st.burst st.borrowIds fun _ _ => rfl⟩
  | d :: ds, st => by
    obtain ⟨new, hnew⟩ := fundDimension_logs env eff cb t req st d
    cases hd : fundDimension env eff cb t req st d with
    | error e =>
      refine ⟨new, fun n es => ?_, ?_, hnew.stamped, fun hnil => ?_⟩
      · have hstep := hnew.writes n es
        simp only [hd] at hstep
        simp only [fundLoop, hd, hstep]
        rfl
      · have hsame := hnew.controls
        simp only [hd] at hsame
        simp only [fundLoop, hd]
        exact hsame
      · have hsame := hnew.quiet hnil
        simp only [hd] at hsame
        simp only [fundLoop, hd]
        exact hsame
    | ok st' =>
      obtain ⟨new', hnew'⟩ := fundLoop_logs ds st'
      have hcontrols : st'.engine.controls = st.engine.controls := by
        have hsame := hnew.controls
        simp only [hd] at hsame
        exact hsame
      refine ⟨new ++ new', fun n es => ?_, ?_, fun e he => ?_, fun hnil => ?_⟩
      · have hstep := hnew.writes n es
        simp only [hd, relog] at hstep
        simp only [fundLoop, hd, hstep]
        rw [hnew'.writes n _, push_push]
      · simp only [fundLoop, hd]
        exact hnew'.controls.trans hcontrols
      · rcases List.mem_append.mp he with he | he
        · exact hnew.stamped e he
        · rw [← hcontrols]
          exact hnew'.stamped e he
      · obtain ⟨h1, h2⟩ := List.append_eq_nil_iff.mp hnil
        have hfirst := hnew.quiet h1
        simp only [hd] at hfirst
        simp only [fundLoop, hd]
        exact hfirst.trans (hnew'.quiet h2)

end Funding

/-! ## The calls -/

/-- What a call `f` appends to the log of `s`. -/
structure Audited (f : Engine → QuotaStatus × Engine) (s : Engine) (new : List QuotaEvent) : Prop where
  appends : Appends withLog UInt32.toNat f s new
  stamped : ∀ e ∈ new, e.MadeUnder (f s).2.controls
  quiet : new = [] → Quiet s (f s).2

section Calls

variable {f : Engine → QuotaStatus × Engine} {g : Engine → Engine} {s : Engine} {new : List QuotaEvent}

theorem Logged.audited (hg : Logged g s new) (status : QuotaStatus)
    (h : ∀ k es, f (withLog k es s) = (status, g (withLog k es s))) : Audited f s new := by
  have hself : f s = (status, g s) := h s.settings.maxEventRetention s.events
  refine ⟨fun n es => ?_, fun e he => ?_, fun hnil => ?_⟩
  · rw [h, hself, hg.writes n es]
  · rw [hself, hg.controls]
    exact hg.stamped e he
  · rw [hself]
    exact hg.quiet hnil

/-- A call that is refused, or finds nothing to do. -/
theorem Audited.refused (status : QuotaStatus) (h : ∀ k es, f (withLog k es s) = (status, withLog k es s)) :
    Audited f s [] := (Logged.refl s).audited status h

/-- A call that makes a change and reports it. -/
theorem Audited.reported (hg : ∀ k es, g (withLog k es s) = withLog k es (g s)) (status : QuotaStatus) (env : Env)
    (type : EventType) (t : TenantId) (detail : Str)
    (h : ∀ k es, f (withLog k es s) = (status, (g (withLog k es s)).emitEvent env type t detail)) :
    Audited f s [(g s).event env type t detail] := by
  have hself : f s = (status, (g s).emitEvent env type t detail) := h s.settings.maxEventRetention s.events
  refine ⟨fun n es => ?_, fun e he => ?_, fun hnil => absurd hnil (List.cons_ne_nil _ _)⟩
  · rw [h, hself, hg]
    rfl
  · rw [hself, List.mem_singleton.mp he]
    exact ⟨rfl, rfl, rfl⟩

/-- The end of `reserve` before its event. -/
def enterReservation (env : Env) (eff : ResourceQuota) (t : TenantId) (req : ResourceVector) (auth : Authority)
    (burst : ResourceVector) (bids : List BorrowId) (s : Engine) : Engine :=
  let s₁ := startBurst env eff s t burst
  (s₁.addReservation (s₁.newReservation env t req auth) { burst := burst, borrows := bids }).syncUsage env 0 t

theorem enterReservation_noted (env : Env) (eff : ResourceQuota) (t : TenantId) (req : ResourceVector)
    (auth : Authority) (burst : ResourceVector) (bids : List BorrowId) (s : Engine) :
    Noted (enterReservation env eff t req auth burst bids) s [] := by
  refine .change (fun k es => ?_) ?_
  · unfold enterReservation startBurst
    split <;> rfl
  · have hsync := standing_syncUsage env ((startBurst env eff s t burst).addReservation
      ((startBurst env eff s t burst).newReservation env t req auth) { burst := burst, borrows := bids }) 0 t
    exact congrArg Standing.controls (hsync.trans (standing_startBurst env s eff t burst))

/-- The funding loop as a change of the engine. -/
theorem Drawn.logged {f : Draw → Except (QuotaStatus × Engine) Draw} {st : Draw} (hf : Drawn f st new) :
    Logged (fun s => drawnEngine (f { st with engine := s })) st.engine new := by
  refine ⟨⟨fun k es => ?_, hf.controls, hf.stamped⟩, hf.quiet⟩
  show drawnEngine (f { st with engine := withLog k es st.engine }) = _
  rw [hf.writes]
  cases f st <;> rfl

/-- `reserve` once its request is funded, or is not. -/
def finishReserve (env : Env) (eff : ResourceQuota) (t : TenantId) (req : ResourceVector) (auth : Authority) :
    Except (QuotaStatus × Engine) Draw → QuotaResult Reservation × Engine
  | .error (st, s) => (.error st, s)
  | .ok st =>
    let r := recordReservation env eff t req auth st
    (.ok r.1, r.2)

theorem reserve_audited (env : Env) (s : Engine) (t : TenantId) (req : ResourceVector) (auth : Authority) :
    ∃ new, Audited (fun s => let r := s.reserve env t req auth; (r.1.status, r.2)) s new := by
  by_cases hepoch : s.staleEpoch auth = true
  · refine ⟨[], .refused (.failure .staleAuthority (text "stale coordinator epoch")) fun k es => ?_⟩
    simp [reserve, hepoch, QuotaResult.status]
  by_cases hgen : s.staleQuotaGen auth = true
  · refine ⟨[], .refused (.failure .staleQuotaGeneration (text "stale quota generation")) fun k es => ?_⟩
    simp [reserve, hepoch, hgen, QuotaResult.status]
  by_cases hvalid : s.validAuthority auth = false
  · refine ⟨[], .refused (.failure .staleAuthority (text "stale authority")) fun k es => ?_⟩
    simp [reserve, hepoch, hgen, hvalid, QuotaResult.status]
  by_cases htenant : s.tenantExists t = false
  · refine ⟨[], .refused (.failure .wrongTenant (text "unknown tenant")) fun k es => ?_⟩
    simp [reserve, hepoch, hgen, hvalid, htenant, QuotaResult.status]
  -- from here on the request is decided, and both engines decide it alike
  have hdecided : ∀ k es, (withLog k es s).reserve env t req auth =
      if !(s.classify env t req).allowed then
        (.error (.failure (denialCode (s.classify env t req).code) (s.classify env t req).explanation.human),
          withLog k es s)
      else finishReserve env (s.effectiveLattice t) t req auth
        (fundLoop env (s.effectiveLattice t) ((s.modifyUsage t id).committed t) t req allResourceDimensions
          { engine := withLog k es (s.modifyUsage t id) }) := by
    intro k es
    unfold reserve
    simp only [staleEpoch_withLog, staleQuotaGen_withLog, validAuthority_withLog, tenantExists_withLog,
      classify_withLog, effectiveLattice_withLog, if_neg hepoch, if_neg hgen]
    rw [if_neg (by simpa using hvalid), if_neg (by simpa using htenant)]
    rfl
  by_cases hdec : (s.classify env t req).allowed = false
  · refine ⟨[], .refused (.failure (denialCode (s.classify env t req).code)
      (s.classify env t req).explanation.human) fun k es => ?_⟩
    simp [hdecided, hdec, QuotaResult.status]
  have hallowed : ¬ (!(s.classify env t req).allowed) = true := by simpa using hdec
  obtain ⟨new, hnew⟩ := fundLoop_logs env (s.effectiveLattice t) ((s.modifyUsage t id).committed t) t req
    allResourceDimensions { engine := s.modifyUsage t id }
  have htouch : Logged (fun s : Engine => s.modifyUsage t id) s [] :=
    ⟨.change (fun _ _ => rfl) rfl, fun _ => .touch s t⟩
  have hloop := htouch.trans hnew.logged
  cases hres : fundLoop env (s.effectiveLattice t) ((s.modifyUsage t id).committed t) t req allResourceDimensions
      { engine := s.modifyUsage t id } with
  | error e =>
    refine ⟨_, hloop.audited e.1 fun k es => ?_⟩
    have hwrites := hnew.writes k es
    simp only [hres, relog] at hwrites
    simp only [hdecided, if_neg hallowed]
    rw [hwrites]
    show _ = (e.1, drawnEngine (fundLoop env (s.effectiveLattice t) ((s.modifyUsage t id).committed t) t req
      allResourceDimensions { engine := withLog k es (s.modifyUsage t id) }))
    rw [hwrites]
    rfl
  | ok st =>
    have hall := (hloop.toNoted.trans (enterReservation_noted env (s.effectiveLattice t) t req auth st.burst
      st.borrowIds _)).emit_logged env .reservation t (text "reservation committed (" ++ req.toStr ++ text ")")
    refine ⟨_, hall.audited .success fun k es => ?_⟩
    have hwrites := hnew.writes k es
    simp only [hres, relog] at hwrites
    simp only [hdecided, if_neg hallowed]
    rw [hwrites]
    show _ = (QuotaStatus.success, (enterReservation env (s.effectiveLattice t) t req auth st.burst st.borrowIds
      (drawnEngine (fundLoop env (s.effectiveLattice t) ((s.modifyUsage t id).committed t) t req
        allResourceDimensions { engine := withLog k es (s.modifyUsage t id) }))).emitEvent env .reservation t
          (text "reservation committed (" ++ req.toStr ++ text ")"))
    rw [hwrites]
    rfl

theorem release_audited (env : Env) (s : Engine) (rid : ReservationId) (auth : Authority) :
    ∃ new, Audited (fun s => s.release env rid auth) s new := by
  by_cases hstale : s.staleEpoch auth = true
  · refine ⟨[], .refused (.failure .staleAuthority (text "stale epoch")) fun k es => ?_⟩
    simp [release, hstale]
  cases hr : s.reservations.lookup rid with
  | none =>
    refine ⟨[], .refused (.failure .staleReservation (text "unknown reservation")) fun k es => ?_⟩
    simp [release, hstale, hr]
  | some r =>
    by_cases hact : activeRes r = false
    · refine ⟨[], .refused (.failure .duplicateRelease (text "reservation already released")) fun k es => ?_⟩
      simp [release, hstale, hr, hact]
    · obtain ⟨new, hnew⟩ := returnAll_logged env (s.listedBorrows rid) (s.setStatus rid .released)
      have hmark : Noted (fun s : Engine => s.setStatus rid .released) s [] := .change (fun _ _ => rfl) rfl
      have hdrop : ∀ s : Engine, Noted (fun s => (s.dropReservation rid).syncUsage env 0 r.tenant) s [] :=
        fun s => .change (fun _ _ => rfl) rfl
      have hall := ((hmark.trans hnew.toNoted).trans (hdrop _)).emit_logged env .release r.tenant
        (text "reservation released")
      refine ⟨_, hall.audited .success fun k es => ?_⟩
      unfold release
      simp only [staleEpoch_withLog, reservations_withLog, hr, if_neg hstale]
      rw [if_neg (by simpa using hact)]
      rfl

theorem borrow_audited (env : Env) (s : Engine) (borrower : TenantId) (amount : ResourceVector) (auth : Authority) :
    ∃ new, Audited (fun s => let r := s.borrow env borrower amount auth; (r.1.status, r.2)) s new := by
  by_cases hauth : (s.staleEpoch auth || !s.validAuthority auth) = true
  · refine ⟨[], .refused (.failure .staleAuthority (text "stale authority")) fun k es => ?_⟩
    simp [borrow, hauth, QuotaResult.status]
  rw [Bool.not_eq_true] at hauth
  by_cases htenant : s.tenantExists borrower = false
  · refine ⟨[], .refused (.failure .wrongTenant (text "unknown borrower")) fun k es => ?_⟩
    simp [borrow, hauth, htenant, QuotaResult.status]
  rw [Bool.not_eq_false] at htenant
  cases hl : s.chooseLender env borrower amount with
  | none =>
    refine ⟨[], .refused (.failure .hardLimitExceeded (text "no lender with borrowable capacity")) fun k es => ?_⟩
    simp [borrow, hauth, htenant, borrowImpl_of_no_lender ((chooseLender_withLog env k es s _ _).trans hl),
      QuotaResult.status]
  | some lender =>
    obtain ⟨new, hne, hnew⟩ := openLoan_logged env s default lender borrower amount none
    have hsync : ∀ s : Engine, Noted (fun s : Engine => s.syncUsage env 0 borrower) s [] :=
      fun s => .change (fun _ _ => rfl) rfl
    have hall := (hnew.toNoted.trans (hsync _)).logged (List.append_ne_nil_of_left_ne_nil hne _)
    refine ⟨_, hall.audited .success fun k es => ?_⟩
    simp [borrow, hauth, htenant, borrowImpl_of_lender ((chooseLender_withLog env k es s _ _).trans hl),
      QuotaResult.status]

/-- `lend` once the loan is open. -/
def finishLend (l : Option LendingRecord) (s : Engine) : QuotaResult LendingRecord × Engine :=
  match l with
  | none => (.error (.failure .invalidHierarchy (text "lend record missing")), s)
  | some l => (.ok l, s)

theorem lend_audited (env : Env) (s : Engine) (lender borrower : TenantId) (amount : ResourceVector)
    (auth : Authority) :
    ∃ new, Audited (fun s => let r := s.lend env lender borrower amount auth; (r.1.status, r.2)) s new := by
  by_cases hauth : (!s.validAuthority auth || s.staleEpoch auth) = true
  · refine ⟨[], .refused (.failure .staleAuthority (text "stale authority")) fun k es => ?_⟩
    simp [lend, hauth, QuotaResult.status]
  rw [Bool.not_eq_true] at hauth
  by_cases htenant : s.tenantExists lender = false
  · refine ⟨[], .refused (.failure .wrongTenant (text "unknown lender")) fun k es => ?_⟩
    simp [lend, hauth, htenant, QuotaResult.status]
  rw [Bool.not_eq_false] at htenant
  by_cases hroom : s.canLend lender amount = false
  · refine ⟨[], .refused (.failure .hardLimitExceeded (text "lender lacks borrowable headroom")) fun k es => ?_⟩
    simp [lend, hauth, htenant, hroom, QuotaResult.status]
  rw [Bool.not_eq_false] at hroom
  cases hl : s.chooseLender env borrower amount with
  | none =>
    refine ⟨[], .refused (.failure .hardLimitExceeded (text "no lender with borrowable capacity")) fun k es => ?_⟩
    simp [lend, hauth, htenant, hroom, borrowImpl_of_no_lender ((chooseLender_withLog env k es s _ _).trans hl),
      QuotaResult.status, QuotaStatus.failure]
  | some found =>
    obtain ⟨new, hne, hnew⟩ := openLoan_logged env s default found borrower amount none
    have hsync : ∀ s : Engine,
        Noted (fun s : Engine => (s.syncUsage env 0 lender).syncUsage env 1 borrower) s [] :=
      fun s => .change (fun _ _ => rfl) rfl
    have hall := (hnew.toNoted.trans (hsync _)).logged (List.append_ne_nil_of_left_ne_nil hne _)
    have hboth : ∀ k es, (withLog k es s).lend env lender borrower amount auth =
        finishLend ((s.openLoan env default found borrower amount none).lends.lookup (env.lendingId default))
          ((((withLog k es s).openLoan env default found borrower amount none).syncUsage env 0 lender).syncUsage env 1
            borrower) := by
      intro k es
      unfold lend
      simp only [validAuthority_withLog, staleEpoch_withLog, hauth, tenantExists_withLog, htenant, canLend_withLog,
        hroom, Bool.not_true, Bool.false_eq_true, if_false,
        borrowImpl_of_lender ((chooseLender_withLog env k es s _ _).trans hl)]
      rfl
    cases hrec : (s.openLoan env default found borrower amount none).lends.lookup (env.lendingId default) with
    | none =>
      refine ⟨_, hall.audited (.failure .invalidHierarchy (text "lend record missing")) fun k es => ?_⟩
      simp only [hboth, hrec, finishLend, QuotaResult.status]
    | some l =>
      refine ⟨_, hall.audited .success fun k es => ?_⟩
      simp only [hboth, hrec, finishLend, QuotaResult.status]

theorem recallBorrow_audited (env : Env) (s : Engine) (bid : BorrowId) (auth : Authority) :
    ∃ new, Audited (fun s => s.recallBorrow env bid auth) s new := by
  by_cases hstale : s.staleEpoch auth = true
  · refine ⟨[], .refused (.failure .staleAuthority (text "stale epoch")) fun k es => ?_⟩
    simp [recallBorrow, hstale]
  cases hb : s.borrows.lookup bid with
  | none =>
    refine ⟨[], .refused (.failure .staleReservation (text "unknown borrow")) fun k es => ?_⟩
    simp [recallBorrow, hstale, hb]
  | some b =>
    cases hrec : b.recalled with
    | true =>
      refine ⟨[], .refused (.failure .duplicateRelease (text "borrow already returned")) fun k es => ?_⟩
      simp [recallBorrow, returnBorrow, hstale, hb, hrec, QuotaStatus.failure]
    | false =>
      obtain ⟨new, -, hnew⟩ := closeLoan_logged env s bid b (ResourceVector.min b.consumed b.consumed)
      have hsync : ∀ s : Engine,
          Noted (fun s : Engine => (s.syncUsage env 0 b.borrower).syncUsage env 1 b.lender) s [] :=
        fun s => .change (fun _ _ => rfl) rfl
      have hall := (hnew.toNoted.trans (hsync _)).emit_logged env .recall b.borrower (text "borrow recalled")
      refine ⟨_, hall.audited .success fun k es => ?_⟩
      simp [recallBorrow, returnBorrow, hstale, hb, hrec, QuotaStatus.success]

/-- A change that no event reports and that changes nothing to speak of. -/
theorem Audited.silent (hg : ∀ k es, g (withLog k es s) = withLog k es (g s)) (hq : Quiet s (g s))
    (hc : (g s).controls = s.controls) (status : QuotaStatus)
    (h : ∀ k es, f (withLog k es s) = (status, g (withLog k es s))) : Audited f s [] :=
  Logged.audited ⟨.change hg hc, fun _ => hq⟩ status h

theorem setTenantQuota_audited (env : Env) (s : Engine) (t : TenantId) (q : ResourceQuota) :
    ∃ new, Audited (fun s => s.setTenantQuota env t q) s new := by
  by_cases htenant : s.tenantExists t = false
  · refine ⟨[], .refused (.failure .wrongTenant (text "tenant missing")) fun k es => ?_⟩
    simp [setTenantQuota, htenant]
  rw [Bool.not_eq_false] at htenant
  by_cases hco : ((s.localQuota.lookup t).isSome && !latticeCoherent q) = true
  · refine ⟨[], .refused (.failure .invalidHierarchy (text "incoherent lattice (guarantee>soft>hard)")) fun k es => ?_⟩
    simp [setTenantQuota, htenant, hco]
  · refine ⟨_, .reported (g := fun s => { s with
      localQuota := s.localQuota.insert t { q with
        tenant := t, generation := s.quotaGeneration, policyGeneration := s.policy.generation }
      quotaGeneration := s.quotaGeneration.next }) (fun _ _ => rfl) .success env .quotaUpdate t
      (text "tenant quota updated") fun k es => ?_⟩
    rw [Bool.not_eq_true] at hco
    simp only [setTenantQuota, tenantExists_withLog, htenant, localQuota_withLog, hco, Bool.not_true,
      Bool.false_eq_true, if_false]

theorem setGroupQuota_audited (env : Env) (s : Engine) (g : TenantGroupId) (q : ResourceQuota) :
    ∃ new, Audited (fun s => s.setGroupQuota env g q) s new := by
  by_cases hgroup : s.groupExists g = false
  · refine ⟨[], .refused (.failure .invalidHierarchy (text "group missing")) fun k es => ?_⟩
    simp [setGroupQuota, hgroup]
  rw [Bool.not_eq_false] at hgroup
  · refine ⟨_, .reported (g := fun s => { s with
      groupQuota := s.groupQuota.insert g { q with
        tenant := {}, generation := s.quotaGeneration, policyGeneration := s.policy.generation }
      quotaGeneration := s.quotaGeneration.next }) (fun _ _ => rfl) .success env .quotaUpdate {}
      (text "group quota updated") fun k es => ?_⟩
    simp only [setGroupQuota, groupExists_withLog, hgroup, Bool.not_true, Bool.false_eq_true, if_false]

theorem createTenant_audited (env : Env) (s : Engine) (id : TenantId) (name : Str) (group : Option TenantGroupId)
    (priority : UInt32) : ∃ new, Audited (fun s => s.createTenant env id name group priority) s new := by
  have hopen : ∀ k es, (withLog k es s).createTenant env id name group priority =
      if s.tenants.entries.length ≥ s.settings.maxTenants.toNat then
        (.failure .resourceOverflow (text "tenant limit reached"), withLog k es s)
      else if s.tenantExists id then
        (.failure .duplicateReservation (text "tenant id already exists"), withLog k es s)
      else if group.any fun g => !s.groupExists g then
        (.failure .invalidHierarchy (text "group missing"), withLog k es s)
      else
        (.success, ({ withLog k es s with
          tenants := s.tenants.emplace id { id := id, name := name, group := group, priority := priority } } : Engine
          ).emitEvent env .quotaUpdate id (text "tenant created")) := fun _ _ => rfl
  by_cases hfull : s.tenants.entries.length ≥ s.settings.maxTenants.toNat
  · refine ⟨[], .refused (.failure .resourceOverflow (text "tenant limit reached")) fun k es => ?_⟩
    rw [hopen, if_pos hfull]
  by_cases htaken : s.tenantExists id = true
  · refine ⟨[], .refused (.failure .duplicateReservation (text "tenant id already exists")) fun k es => ?_⟩
    rw [hopen, if_neg hfull, if_pos htaken]
  by_cases hgroup : (group.any fun g => !s.groupExists g) = true
  · refine ⟨[], .refused (.failure .invalidHierarchy (text "group missing")) fun k es => ?_⟩
    rw [hopen, if_neg hfull, if_neg htaken, if_pos hgroup]
  · refine ⟨_, .reported (g := fun s => { s with
      tenants := s.tenants.emplace id { id := id, name := name, group := group, priority := priority } })
      (fun _ _ => rfl) .success env .quotaUpdate id (text "tenant created") fun k es => ?_⟩
    rw [hopen, if_neg hfull, if_neg htaken, if_neg hgroup]
    rfl

theorem commitReservation_audited (env : Env) (s : Engine) (rid : ReservationId) (auth : Authority) :
    ∃ new, Audited (fun s => s.commitReservation env rid auth) s new := by
  by_cases hepoch : s.staleEpoch auth = true
  · refine ⟨[], .refused (.failure .staleAuthority (text "stale epoch")) fun k es => ?_⟩
    simp [commitReservation, hepoch]
  by_cases hgen : s.staleQuotaGen auth = true
  · refine ⟨[], .refused (.failure .staleQuotaGeneration (text "stale quota generation")) fun k es => ?_⟩
    simp [commitReservation, hepoch, hgen]
  cases hr : s.reservations.lookup rid with
  | none =>
    refine ⟨[], .refused (.failure .staleReservation (text "unknown reservation")) fun k es => ?_⟩
    simp [commitReservation, hepoch, hgen, hr]
  | some r =>
    by_cases hdone : r.status = .committed
    · refine ⟨[], .refused .success fun k es => ?_⟩
      simp [commitReservation, hepoch, hgen, hr, hdone]
    by_cases hprov : r.status = .provisional
    · refine ⟨_, .reported (g := fun s => (s.markCommitted rid).syncUsage env 0 r.tenant) (fun _ _ => rfl) .success
        env .reservation r.tenant (text "reservation committed") fun k es => ?_⟩
      simp [commitReservation, hepoch, hgen, hr, hprov]
    · refine ⟨[], .refused (.failure .staleReservation (text "reservation not provisional")) fun k es => ?_⟩
      simp [commitReservation, hepoch, hgen, hr, hdone, hprov]

theorem startAllocation_audited (env : Env) (s : Engine) (rid : ReservationId) (req : ResourceVector)
    (auth : Authority) :
    ∃ new, Audited (fun s => let r := s.startAllocation env rid req auth; (r.1.status, r.2)) s new := by
  by_cases hvalid : s.validAuthority auth = false
  · refine ⟨[], .refused (.failure .staleAuthority (text "stale authority")) fun k es => ?_⟩
    simp [startAllocation, hvalid, QuotaResult.status]
  cases hr : s.reservations.lookup rid with
  | none =>
    refine ⟨[], .refused (.failure .staleReservation (text "unknown reservation")) fun k es => ?_⟩
    simp [startAllocation, hvalid, hr, QuotaResult.status]
  | some r =>
    by_cases hact : activeRes r = false
    · refine ⟨[], .refused (.failure .staleReservation (text "reservation not active")) fun k es => ?_⟩
      simp [startAllocation, hvalid, hr, hact, QuotaResult.status]
    · refine ⟨_, .reported (g := fun s => (s.withAllocation env r rid req auth).syncUsage env 0 r.tenant)
        (fun _ _ => rfl) .success env .reservation r.tenant (text "allocation started") fun k es => ?_⟩
      unfold startAllocation
      simp only [validAuthority_withLog, reservations_withLog, hr]
      rw [if_neg (by simpa using hvalid), if_neg (by simpa using hact)]
      rfl

/-- `resize_allocation` once the new use is written. -/
def resizeOutcome (env : Env) (a : Allocation) (s : Engine) : QuotaStatus × Engine :=
  let dec := s.classify env a.tenant a.resources
  if resizeDenied dec.code then
    (.failure (if dec.code = .denyParent then .parentLimitExceeded else .hardLimitExceeded) dec.explanation.human,
      s.emitEvent env .violation a.tenant (text "allocation resize would violate quota"))
  else (.success, (s.syncUsage env 0 a.tenant).emitEvent env .reservation a.tenant (text "allocation resized"))

theorem resizeAllocation_audited (env : Env) (s : Engine) (aid : AllocationId) (delta : ResourceVector)
    (auth : Authority) : ∃ new, Audited (fun s => s.resizeAllocation env aid delta auth) s new := by
  by_cases hgen : s.staleQuotaGen auth = true
  · refine ⟨[], .refused (.failure .staleQuotaGeneration (text "stale quota generation")) fun k es => ?_⟩
    simp [resizeAllocation, hgen]
  cases ha : s.allocations.lookup aid with
  | none =>
    refine ⟨[], .refused (.failure .staleReservation (text "unknown allocation")) fun k es => ?_⟩
    simp [resizeAllocation, hgen, ha]
  | some a =>
    by_cases hact : a.active = false
    · refine ⟨[], .refused (.failure .staleReservation (text "allocation not active")) fun k es => ?_⟩
      simp [resizeAllocation, hgen, ha, hact]
    have hused : ∀ k es, (withLog k es s).withModified aid (fun x => { x with used := resizedUse a delta }) =
        withLog k es (s.withModified aid fun x => { x with used := resizedUse a delta }) := fun _ _ => rfl
    have hopen : ∀ k es, (withLog k es s).resizeAllocation env aid delta auth =
        resizeOutcome env a ((withLog k es s).withModified aid fun x => { x with used := resizedUse a delta }) := by
      intro k es
      unfold resizeAllocation
      simp only [staleQuotaGen_withLog, allocations_withLog, ha, if_neg hgen]
      rw [if_neg (by simpa using hact)]
      rfl
    generalize hs₁ : (s.withModified aid fun x => { x with used := resizedUse a delta }) = s₁ at hused
    by_cases hdeny : resizeDenied (s₁.classify env a.tenant a.resources).code = true
    · refine ⟨_, .reported (g := fun s => s.withModified aid fun x => { x with used := resizedUse a delta })
        (fun _ _ => rfl) (.failure (if (s₁.classify env a.tenant a.resources).code = .denyParent then
          .parentLimitExceeded else .hardLimitExceeded) (s₁.classify env a.tenant a.resources).explanation.human)
        env .violation a.tenant (text "allocation resize would violate quota") fun k es => ?_⟩
      simp only [hopen, hused, resizeOutcome, classify_withLog, if_pos hdeny]
    · refine ⟨_, .reported
        (g := fun s => (s.withModified aid fun x => { x with used := resizedUse a delta }).syncUsage env 0 a.tenant)
        (fun _ _ => rfl) .success env .reservation a.tenant (text "allocation resized") fun k es => ?_⟩
      simp only [hopen, hused, resizeOutcome, classify_withLog, if_neg hdeny]

theorem releaseAllocation_audited (env : Env) (s : Engine) (aid : AllocationId) (auth : Authority) :
    ∃ new, Audited (fun s => s.releaseAllocation env aid auth) s new := by
  by_cases hgen : s.staleQuotaGen auth = true
  · refine ⟨[], .refused (.failure .staleQuotaGeneration (text "stale quota generation")) fun k es => ?_⟩
    simp [releaseAllocation, hgen]
  cases ha : s.allocations.lookup aid with
  | none =>
    refine ⟨[], .refused (.failure .staleReservation (text "unknown allocation")) fun k es => ?_⟩
    simp [releaseAllocation, hgen, ha]
  | some a =>
    by_cases hact : a.active = false
    · refine ⟨[], .refused (.failure .duplicateRelease (text "allocation already released")) fun k es => ?_⟩
      simp [releaseAllocation, hgen, ha, hact]
    · refine ⟨_, .reported
        (g := fun s => (s.withModified aid fun x => { x with active := false, endedAt := env.now }).syncUsage env 0
          a.tenant) (fun _ _ => rfl) .success env .release a.tenant (text "allocation released") fun k es => ?_⟩
      unfold releaseAllocation
      simp only [staleQuotaGen_withLog, allocations_withLog, ha, if_neg hgen]
      rw [if_neg (by simpa using hact)]
      rfl

theorem applyObservation_audited (env : Env) (s : Engine) (obs : Observation) :
    ∃ new, Audited (fun s => s.applyObservation env obs) s new := by
  by_cases htenant : (!s.tenantExists obs.tenant) = true
  · refine ⟨[], .refused (.failure .wrongTenant (text "unknown tenant for observation")) fun k es => ?_⟩
    unfold applyObservation
    rw [if_pos (show (!(withLog k es s).tenantExists obs.tenant) = true from htenant)]
  -- a kind on the wrong dimension only enters default counters
  have hwrong : ∀ message, (∀ k es, (withLog k es s).applyObservation env obs =
      (.failure .invalidSharedAttribution message, (withLog k es s).modifyUsage obs.tenant id)) →
      ∃ new, Audited (fun s => s.applyObservation env obs) s new := fun message h =>
    ⟨[], .silent (g := fun s => s.modifyUsage obs.tenant id) (fun _ _ => rfl) (.touch s obs.tenant) rfl _ h⟩
  have hdone : ∀ g : Engine → Engine, (∀ k es, g (withLog k es s) = withLog k es (g s)) →
      (∀ k es, (withLog k es s).applyObservation env obs =
        (.success, (g (withLog k es s)).emitEvent env .violation obs.tenant
          (text "observation " ++ resourceDimensionName obs.dimension))) →
      ∃ new, Audited (fun s => s.applyObservation env obs) s new := fun g hg h =>
    ⟨_, .reported hg .success env .violation obs.tenant _ h⟩
  have hopen : ∀ k es, ¬ (!(withLog k es s).tenantExists obs.tenant) = true := fun _ _ => htenant
  cases hkind : obs.kind with
  | computeInterval =>
    by_cases hdim : obs.dimension ≠ .acceleratorComputeTime
    · refine hwrong (text "compute interval on wrong dimension") fun k es => ?_
      unfold applyObservation
      rw [if_neg (hopen k es), hkind]
      simp only [if_pos hdim]
    · refine hdone (fun s => (s.modifyUsage obs.tenant id).modifyUsage obs.tenant
        (addSample obs.dimension (if obs.at_ > 0 then obs.at_ else env.now) obs.amount)) (fun _ _ => rfl)
        fun k es => ?_
      unfold applyObservation
      rw [if_neg (hopen k es), hkind]
      simp only [if_neg hdim]
  | transferConsumed =>
    by_cases hdim : obs.dimension ≠ .transferBytes
    · refine hwrong (text "transfer consumed on wrong dimension") fun k es => ?_
      unfold applyObservation
      rw [if_neg (hopen k es), hkind]
      simp only [if_pos hdim]
    · refine hdone (fun s => (s.modifyUsage obs.tenant id).modifyUsage obs.tenant
        (addSample .transferBytes (if obs.at_ > 0 then obs.at_ else env.now) obs.amount)) (fun _ _ => rfl)
        fun k es => ?_
      unfold applyObservation
      rw [if_neg (hopen k es), hkind]
      simp only [if_neg hdim]
  | modelResidencyAdded =>
    refine hdone (fun s =>
      ({ s.modifyUsage obs.tenant id with
        allocations := s.allocations.modify obs.allocation fun a =>
          { a with used := (a.used.set .modelResidencyBytes
              (((s.modifyUsage obs.tenant id).usageOf obs.tenant).consumption.get .modelResidencyBytes +
                obs.amount)).2 } } : Engine).modifyUsage obs.tenant
        (shiftConsumption .modelResidencyBytes obs.amount)) (fun _ _ => rfl) fun k es => ?_
    unfold applyObservation
    rw [if_neg (hopen k es), hkind]
    rfl
  | modelResidencyRemoved =>
    refine hdone (fun s => (s.modifyUsage obs.tenant id).modifyUsage obs.tenant fun u =>
      { u with
        consumption := (u.consumption.set .modelResidencyBytes
          (max 0 (u.consumption.get .modelResidencyBytes - obs.amount))).2 }) (fun _ _ => rfl) fun k es => ?_
    unfold applyObservation
    rw [if_neg (hopen k es), hkind]
  | kvUsageChange | tensorUsageChange | usageDelta =>
    refine hdone (fun s => (s.modifyUsage obs.tenant id).modifyUsage obs.tenant
      (shiftConsumption obs.dimension obs.amount)) (fun _ _ => rfl) fun k es => ?_
    unfold applyObservation
    rw [if_neg (hopen k es), hkind]
  | allocationStart | allocationResize | allocationRelease | reservationCommitted =>
    refine hdone (fun s => s.modifyUsage obs.tenant id) (fun _ _ => rfl) fun k es => ?_
    unfold applyObservation
    rw [if_neg (hopen k es), hkind]

end Calls

end Engine

/-- The one call that changes a record and emits nothing. -/
def Call.isSilent : Call → Bool
  | .createGroupAutoid .. => true
  | _ => false

namespace Engine

section Exec

variable (env : Env) (s : Engine)

/-- **What a call appends, and that it changes nothing in silence.** -/
theorem exec_audited {c : Call} (hc : c.isSilent = false) : ∃ new, Audited (fun s => s.exec env c) s new := by
  cases c with
  | createGroupAutoid name kind parent => cases hc
  | setPolicy policy =>
    cases hv : policy.validate with
    | some err =>
      refine ⟨[], .refused (.failure .invalidHierarchy (text "invalid policy: " ++ err)) fun k es => ?_⟩
      show (withLog k es s).setPolicy env policy = _
      unfold setPolicy
      rw [hv]
    | none =>
      refine ⟨_, .reported (g := fun s => { s with policy := policy }) (fun _ _ => rfl) .success env .quotaUpdate {}
        (text "policy replaced") fun k es => ?_⟩
      show (withLog k es s).setPolicy env policy = _
      unfold setPolicy
      rw [hv]
  | advanceEpoch =>
    exact ⟨_, .reported (g := fun s => { s with epoch := s.epoch.next }) (fun _ _ => rfl) .success env .quotaUpdate {}
      (text "coordinator epoch advanced") fun _ _ => rfl⟩
  | createGroup name kind parent =>
    by_cases hp : (parent.any fun p => !s.groupExists p) = true
    · refine ⟨[], .refused (.failure .invalidHierarchy (text "parent group missing")) fun k es => ?_⟩
      show (withLog k es s).createGroup env name kind parent = _
      unfold createGroup
      rw [if_pos (show (parent.any fun p => !(withLog k es s).groupExists p) = true from hp)]
    · refine ⟨_, .reported
        (g := fun s => { s with groups := s.groups.emplace env.groupId (s.newGroup env name kind parent) })
        (fun _ _ => rfl) .success env .quotaUpdate {} (text "group created") fun k es => ?_⟩
      show (withLog k es s).createGroup env name kind parent = _
      unfold createGroup
      rw [if_neg (show ¬ (parent.any fun p => !(withLog k es s).groupExists p) = true from hp)]
  | createTenant id name group priority => exact createTenant_audited env s id name group priority
  | createTenantAutoid name group priority => exact createTenant_audited env s env.tenantId name group priority
  | setTenantQuota t q => exact setTenantQuota_audited env s t q
  | setGroupQuota g q => exact setGroupQuota_audited env s g q
  | reserve t req auth => exact reserve_audited env s t req auth
  | commitReservation rid auth => exact commitReservation_audited env s rid auth
  | startAllocation rid req auth => exact startAllocation_audited env s rid req auth
  | resizeAllocation aid delta auth => exact resizeAllocation_audited env s aid delta auth
  | release rid auth => exact release_audited env s rid auth
  | releaseAllocation aid auth => exact releaseAllocation_audited env s aid auth
  | borrow b amount auth => exact borrow_audited env s b amount auth
  | lend l b amount auth => exact lend_audited env s l b amount auth
  | recallBorrow bid auth => exact recallBorrow_audited env s bid auth
  | applyObservation obs => exact applyObservation_audited env s obs
  | snapshot =>
    exact ⟨[], .silent (g := snapshotStep) (fun _ _ => rfl)
      ⟨⟨rfl, rfl, rfl, rfl, rfl, rfl, rfl⟩, rfl, rfl, rfl, rfl, rfl, rfl, rfl, fun _ => rfl⟩ rfl .success
      fun _ _ => rfl⟩
  | saveTo path =>
    cases hok : env.fileOk with
    | true =>
      refine ⟨_, .reported (g := fun s => { s with persistPath := path }) (fun _ _ => rfl) .success env .recovery {}
        (text "state persisted") fun k es => ?_⟩
      show (withLog k es s).saveTo env path = _
      unfold saveTo
      rw [if_pos hok]
    | false =>
      refine ⟨[], .refused (.failure .resourceOverflow (text "write failed")) fun k es => ?_⟩
      show (withLog k es s).saveTo env path = _
      unfold saveTo
      rw [hok]
      rfl
  | query => exact ⟨[], .refused .success fun _ _ => rfl⟩

/-- **No call reads the log or its bound.** -/
theorem exec_appends (c : Call) :
    ∃ new, Appends withLog UInt32.toNat (fun s => s.exec env c) s new ∧
      ∀ e ∈ new, e.MadeUnder (s.exec env c).2.controls := by
  cases hc : c.isSilent with
  | false =>
    obtain ⟨new, hnew⟩ := exec_audited env s hc
    exact ⟨new, hnew.appends, hnew.stamped⟩
  | true =>
    cases c with
    | createGroupAutoid name kind parent => exact ⟨[], fun _ _ => rfl, fun _ he => absurd he List.not_mem_nil⟩
    | _ => cases hc

end Exec

end Engine

end QuotaFabric
