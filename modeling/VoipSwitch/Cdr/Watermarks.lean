import VoipSwitch.Cdr.Admission
import VoipSwitch.Lib.History

/-! The admission of calls as a function of everything that was measured: a domain rejects calls
from the upper watermark of its spool on until the backlog is below the lower one. -/
namespace VoipSwitch

open Keyed History

/-- A setting after `normalize_setting`. -/
inductive NormalizedSetting where
  | bool (value : Bool)
  | integer (value : Int)
  | string (value : String)
deriving DecidableEq

def cdrSpoolWarningMbKey : String := "cdr_spool_warning_mb"
def cdrSpoolRejectMbKey : String := "cdr_spool_reject_mb"
def cdrSpoolResumeMbKey : String := "cdr_spool_resume_mb"

def updatedInteger (updates : OrdMap String NormalizedSetting) (key : String) : Option Nat :=
  match updates.lookup key with
  | some (.integer value) => if 0 ≤ value then some value.toNat else none
  | _ => none

/-- The limits are checked together, the new ones with those that stay. -/
def validateCdrSpoolLimits (current : CdrSpoolLimits)
    (updates : OrdMap String NormalizedSetting) : Except String Unit :=
  let warning := (updatedInteger updates cdrSpoolWarningMbKey).getD current.warningMb
  let reject := (updatedInteger updates cdrSpoolRejectMbKey).getD current.rejectMb
  let resume := (updatedInteger updates cdrSpoolResumeMbKey).getD current.resumeMb
  if warning < resume && resume < reject then .ok ()
  else .error "CDR spool limits must satisfy warning < resume < reject"

namespace CdrSpoolLimits

/-- The limits that the validator of the settings accepts. -/
def Ordered (limits : CdrSpoolLimits) : Prop :=
  limits.warningMb < limits.resumeMb ∧ limits.resumeMb < limits.rejectMb

instance (limits : CdrSpoolLimits) : Decidable limits.Ordered :=
  inferInstanceAs (Decidable (_ ∧ _))

/-- The limits are those of the settings after an update. -/
structure UpdatedBy (limits current : CdrSpoolLimits) (updates : OrdMap String NormalizedSetting) :
    Prop where
  warning : limits.warningMb =
    (updatedInteger updates cdrSpoolWarningMbKey).getD current.warningMb
  reject : limits.rejectMb = (updatedInteger updates cdrSpoolRejectMbKey).getD current.rejectMb
  resume : limits.resumeMb = (updatedInteger updates cdrSpoolResumeMbKey).getD current.resumeMb

theorem UpdatedBy.ordered_iff {limits current : CdrSpoolLimits}
    {updates : OrdMap String NormalizedSetting} (h : limits.UpdatedBy current updates) :
    limits.Ordered ↔ validateCdrSpoolLimits current updates = .ok () := by
  rw [Ordered, validateCdrSpoolLimits, h.warning, h.reject, h.resume]
  split
  · next hOrdered =>
      rw [Bool.and_eq_true, decide_eq_true_eq, decide_eq_true_eq] at hOrdered
      exact iff_of_true hOrdered rfl
  · next hNot =>
      rw [Bool.and_eq_true, decide_eq_true_eq, decide_eq_true_eq] at hNot
      exact iff_of_false hNot (by simp only [reduceCtorEq, not_false_eq_true])

def rejectBytes (limits : CdrSpoolLimits) : Nat := satMul64 limits.rejectMb mib

def resumeBytes (limits : CdrSpoolLimits) : Nat := satMul64 limits.resumeMb mib

theorem Ordered.resume_le_reject {limits : CdrSpoolLimits} (h : limits.Ordered) :
    limits.resumeBytes ≤ limits.rejectBytes := by
  have hMb := h.2
  rw [resumeBytes, rejectBytes, satMul64, satMul64, mib]
  omega

end CdrSpoolLimits

/-- What is reported of a domain. -/
inductive AdmissionOp where
  | update (domainId : DomainId) (backlogBytes : Nat)
  | appendFailure (domainId : DomainId) (failed : Bool)
deriving DecidableEq

namespace SpoolAdmission

variable {a : SpoolAdmission} {limits : CdrSpoolLimits} {domainId other : DomainId}
  {ops : List AdmissionOp} {op : AdmissionOp}

def new (limits : CdrSpoolLimits) : SpoolAdmission where
  domains := .empty
  limits

/-- An operation, with the limits that are set. -/
def apply (a : SpoolAdmission) : AdmissionOp → SpoolAdmission
  | .update domainId backlogBytes => a.update a.limits domainId backlogBytes
  | .appendFailure domainId failed => a.appendFailure domainId failed

def run (limits : CdrSpoolLimits) (ops : List AdmissionOp) : SpoolAdmission :=
  ops.foldl apply (new limits)

theorem run_snoc (limits : CdrSpoolLimits) (ops : List AdmissionOp) (op : AdmissionOp) :
    run limits (ops ++ [op]) = (run limits ops).apply op := by
  rw [run, List.foldl_append, ← run]
  rfl

theorem limits_apply (a : SpoolAdmission) (op : AdmissionOp) : (a.apply op).limits = a.limits := by
  cases op <;> rfl

theorem limits_run (limits : CdrSpoolLimits) (ops : List AdmissionOp) :
    (run limits ops).limits = limits := by
  induction ops using List.reverseRecOn with
  | nil => rfl
  | append_singleton ops op ih =>
      rw [run_snoc, limits_apply, ih]

theorem status_appendFailure_self (a : SpoolAdmission) (domainId : DomainId) (failed : Bool) :
    (a.appendFailure domainId failed).status domainId =
      { a.status domainId with appendFailed := failed } := by
  rw [status, appendFailure, Table.get_insert_self, Option.getD_some]

theorem status_appendFailure_of_ne {failed : Bool} (h : other ≠ domainId) :
    (a.appendFailure domainId failed).status other = a.status other := by
  rw [status, appendFailure, Table.get_insert_of_ne (Ne.symm h), status]

/-- A domain of which nothing is known admits calls, as one with the initial status. -/
theorem admitsNewCall_eq (a : SpoolAdmission) (domainId : DomainId) :
    a.admitsNewCall domainId =
      (!(a.status domainId).rejectingNewCalls && !(a.status domainId).appendFailed) := by
  rw [admitsNewCall, status]
  cases a.domains.get domainId <;> rfl

/-- The measurement reaches the upper watermark of the domain. -/
def Fills (limits : CdrSpoolLimits) (domainId : DomainId) (op : AdmissionOp) : Prop :=
  ∃ bytes, op = .update domainId bytes ∧ limits.rejectBytes ≤ bytes

/-- The measurement is below its lower watermark. -/
def Drains (limits : CdrSpoolLimits) (domainId : DomainId) (op : AdmissionOp) : Prop :=
  ∃ bytes, op = .update domainId bytes ∧ bytes < limits.resumeBytes

/-- An append of the domain fails, or is reported to work. -/
def ReportsAppend (domainId : DomainId) (op : AdmissionOp) : Prop :=
  ∃ failed, op = .appendFailure domainId failed

/-- One measurement: the upper watermark starts the rejection, and the lower one ends it. -/
theorem rejecting_updated (h : limits.resumeBytes ≤ limits.rejectBytes) (bytes : Nat)
    (status : DomainSpoolStatus) :
    (status.updated limits bytes).rejectingNewCalls = true ↔
      limits.rejectBytes ≤ bytes ∨
        status.rejectingNewCalls = true ∧ ¬ bytes < limits.resumeBytes := by
  rw [CdrSpoolLimits.resumeBytes, CdrSpoolLimits.rejectBytes] at h
  simp only [DomainSpoolStatus.updated, CdrSpoolLimits.rejectBytes, CdrSpoolLimits.resumeBytes]
  cases status.rejectingNewCalls with
  | false => simp
  | true =>
      simp
      omega

theorem rejecting_apply (h : a.limits.resumeBytes ≤ a.limits.rejectBytes) (op : AdmissionOp) :
    ((a.apply op).status domainId).rejectingNewCalls = true ↔
      Fills a.limits domainId op ∨
        (a.status domainId).rejectingNewCalls = true ∧ ¬ Drains a.limits domainId op := by
  cases op with
  | update measured bytes =>
      by_cases hSame : domainId = measured
      · subst hSame
        rw [apply, status_update_self, rejecting_updated h]
        simp [Fills, Drains]
      · rw [apply, status_update_of_ne hSame]
        simp [Fills, Drains, Ne.symm hSame]
  | appendFailure appended failed =>
      rw [apply, (status_appendFailure a appended domainId failed).2]
      simp [Fills, Drains]

theorem appendFailed_apply (a : SpoolAdmission) (op : AdmissionOp) :
    ((a.apply op).status domainId).appendFailed = true ↔
      op = .appendFailure domainId true ∨
        (a.status domainId).appendFailed = true ∧ ¬ ReportsAppend domainId op := by
  cases op with
  | update measured bytes =>
      by_cases hSame : domainId = measured
      · subst hSame
        rw [apply, status_update_self]
        simp [DomainSpoolStatus.updated, ReportsAppend]
      · rw [apply, status_update_of_ne hSame]
        simp [ReportsAppend]
  | appendFailure appended failed =>
      by_cases hSame : domainId = appended
      · subst hSame
        rw [apply, status_appendFailure_self]
        simp [ReportsAppend]
      · rw [apply, status_appendFailure_of_ne hSame]
        simp [ReportsAppend, Ne.symm hSame]

theorem rejecting_run (h : limits.Ordered) (ops : List AdmissionOp) (domainId : DomainId) :
    ((run limits ops).status domainId).rejectingNewCalls = true ↔
      Since (Fills limits domainId) (Drains limits domainId) ops := by
  induction ops using List.reverseRecOn with
  | nil => exact iff_of_false Bool.false_ne_true not_since_nil
  | append_singleton ops op ih =>
      have hLimits := limits_run limits ops
      rw [run_snoc, rejecting_apply (by rw [hLimits]; exact h.resume_le_reject), hLimits, ih,
        since_snoc]

theorem appendFailed_run (limits : CdrSpoolLimits) (ops : List AdmissionOp)
    (domainId : DomainId) :
    ((run limits ops).status domainId).appendFailed = true ↔
      Since (· = .appendFailure domainId true) (ReportsAppend domainId) ops := by
  induction ops using List.reverseRecOn with
  | nil => exact iff_of_false Bool.false_ne_true not_since_nil
  | append_singleton ops op ih => rw [run_snoc, appendFailed_apply, ih, since_snoc]

/-- After any operations a domain rejects calls exactly if it has reached the upper watermark and
was not measured below the lower one since; it admits none exactly if it rejects them or its last
append failed; and a measurement of another domain changes nothing of that. -/
theorem admission_hysteresis (h : limits.Ordered) (ops : List AdmissionOp) (domainId : DomainId) :
    (((run limits ops).status domainId).rejectingNewCalls = true ↔
      Since (Fills limits domainId) (Drains limits domainId) ops) ∧
    ((run limits ops).admitsNewCall domainId = false ↔
      ((run limits ops).status domainId).rejectingNewCalls = true ∨
        Since (· = .appendFailure domainId true) (ReportsAppend domainId) ops) ∧
    ∀ other bytes, other ≠ domainId →
      (run limits (ops ++ [.update other bytes])).admitsNewCall domainId =
        (run limits ops).admitsNewCall domainId := by
  refine ⟨rejecting_run h ops domainId, ?_, ?_⟩
  · rw [← appendFailed_run limits, admitsNewCall_eq, Bool.and_eq_false_iff, Bool.not_eq_false',
      Bool.not_eq_false']
  · intro other bytes hOther
    rw [run_snoc, apply, admitsNewCall_eq, admitsNewCall_eq,
      status_update_of_ne (Ne.symm hOther)]

def narrowLimits : CdrSpoolLimits where
  warningMb := 1
  resumeMb := 2
  rejectMb := 3
  resumeMb_pos := Nat.succ_pos 1
  rejectMb_pos := Nat.succ_pos 2

/-- Between the watermarks the last of them decides. -/
theorem admission_hysteresis_sample :
    (run narrowLimits [.update "domain-a" (3 * mib), .update "domain-a" (2 * mib)]).admitsNewCall
      "domain-a" = false ∧
    (run narrowLimits
      [.update "domain-a" (3 * mib), .update "domain-a" (2 * mib - 1)]).admitsNewCall
      "domain-a" = true := by
  constructor
  · apply (admission_hysteresis (by decide) _ _).2.1.mpr
    exact .inl (by decide)
  · decide

end SpoolAdmission

end VoipSwitch
