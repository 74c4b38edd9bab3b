import VoipSwitch.Ai.Submission

/-! The replay of the outboxes against a walk in which a bad record costs nothing but itself.
The replay reads and settles all records before it sends any message. -/
namespace VoipSwitch.AiOutbox.AiJobService

open Keyed Stateful Proc AiProtocol

section Walk

/-- What became of one file: why it cannot be used, or its record. -/
abbrev Outcome := Except String OutboxRecord

/-- The files of a directory, each read on its own. -/
def reads (io : Io) (files : Files) : List Outcome := (recordNames files).map (readPath io files)

/-- Settle the records that could be read, whatever becomes of the others. -/
def visitRecords (domainId : String) : List Outcome → Handler (List Outcome)
  | [] => pure []
  | .error error :: rest => do
    let others ← visitRecords domainId rest
    return .error error :: others
  | .ok record :: rest => do
    let outcome ← attempt (settle domainId record)
    let others ← visitRecords domainId rest
    return outcome :: others

/-- The walk over the domains; only a directory that cannot be listed ends it. -/
def visit : List String → Handler (List Outcome)
  | [] => pure []
  | domainId :: rest => do
    let env ← read
    openOutbox domainId
    ofOption (env.listError domainId)
    let outcomes ← visitRecords domainId
      (reads (env.files domainId) ((← get).filesOf domainId))
    let others ← visit rest
    return outcomes ++ others

/-- What becomes of each file of each domain. -/
def outcomes (env : Env) (s : AiJobService) : List Outcome :=
  match (visit s.outboxes.entries.keys env s).1 with
  | .ok outcomes => outcomes
  | .error _ => []

/-- The messages that a replay sends. -/
def resent (env : Env) (s : AiJobService) : List AiProtocol.ControlMessage :=
  (replayPending.final env s).sent.drop s.sent.length

/-- Every record that is not bad itself has its message sent. -/
def Isolated (env : Env) (s : AiJobService) : Prop :=
  ∀ record message, .ok record ∈ outcomes env s → record.pendingMessage = some message →
    message ∈ resent env s

def isBad : Outcome → Bool
  | .error _ => true
  | .ok _ => false

/-- The records of a walk that the gateway is still to be told about. -/
def pendingOf (outcomes : List Outcome) : List OutboxRecord :=
  (outcomes.filterMap Except.toOption).filter isPending

end Walk

section Agreement

variable {env : Env} {s : AiJobService} {domainId : String}

/-- The replay's part of the walk returns what the walk finds, and fails if it finds a bad
record; no message is sent on the way. -/
def Agrees (env : Env) (s : AiJobService) (walk : Handler (List Outcome))
    (replayed : Handler (List OutboxRecord)) : Prop :=
  ∃ found t, walk env s = (.ok found, t) ∧ t.sent = s.sent ∧
    if found.any isBad then ∃ error t', replayed env s = (.error error, t') ∧ t'.sent = s.sent
    else replayed env s = (.ok (pendingOf found), t)

theorem Agrees.nil : Agrees env s (pure []) (pure []) := ⟨[], s, rfl, rfl, rfl⟩

theorem pendingOf_append (first rest : List Outcome) :
    pendingOf (first ++ rest) = pendingOf first ++ pendingOf rest := by
  rw [pendingOf, List.filterMap_append, List.filter_append]
  rfl

/-- Two parts one after the other. -/
theorem Agrees.append {walk walk' : Handler (List Outcome)}
    {replayed replayed' : Handler (List OutboxRecord)} (h : Agrees env s walk replayed)
    (h' : ∀ t, t.sent = s.sent → Agrees env t walk' replayed') :
    Agrees env s (do let first ← walk; let rest ← walk'; return first ++ rest)
      (do let first ← replayed; let rest ← replayed'; return first ++ rest) := by
  obtain ⟨first, t, hWalk, hSent, hReplayed⟩ := h
  obtain ⟨rest, u, hWalk', hSent', hReplayed'⟩ := h' t hSent
  refine ⟨first ++ rest, u, ?_, hSent'.trans hSent, ?_⟩
  · simp only [bind, hWalk, hWalk']
    rfl
  · rw [List.any_append]
    cases hFirst : first.any isBad with
    | true =>
        rw [hFirst, if_pos rfl] at hReplayed
        obtain ⟨error, t', hFails, hKept⟩ := hReplayed
        rw [Bool.true_or, if_pos rfl]
        refine ⟨error, t', ?_, hKept⟩
        simp only [bind, hFails]
    | false =>
        rw [hFirst, if_neg Bool.false_ne_true] at hReplayed
        rw [Bool.false_or]
        cases hRest : rest.any isBad with
        | true =>
            rw [hRest, if_pos rfl] at hReplayed'
            obtain ⟨error, u', hFails, hKept⟩ := hReplayed'
            rw [if_pos rfl]
            refine ⟨error, u', ?_, hKept.trans hSent⟩
            simp only [bind, hReplayed, hFails]
        | false =>
            rw [hRest, if_neg Bool.false_ne_true] at hReplayed'
            rw [if_neg Bool.false_ne_true, pendingOf_append]
            simp only [bind, hReplayed, hReplayed']
            rfl

theorem settle_sent (record : OutboxRecord) :
    Keeps env (fun t => t.sent = s.sent) (fun t => t.sent = s.sent) (settle domainId record) := by
  rw [settle]
  apply Keeps.ite
  · apply Keeps.withEnv
    intro t ht
    rw [post_focus]
    exact (Post.of_final (P := fun _ : Outbox => True) trivial).mono (fun _ _ _ => ht) fun _ _ => ht
  · exact .pure record

/-- One record, in the walk and in the replay. -/
theorem settle_agrees (record : OutboxRecord) :
    Agrees env s (do let outcome ← attempt (settle domainId record); return [outcome])
      (do let settled ← settle domainId record
          return if isPending settled then [settled] else []) := by
  have hSent : ((settle domainId record).final env s).sent = s.sent :=
    Post.final (P := fun t : AiJobService => t.sent = s.sent) (settle_sent record s rfl)
  rw [Proc.final] at hSent
  rcases hSettle : settle domainId record env s with ⟨result, t⟩
  rw [hSettle] at hSent
  refine ⟨[result], t, ?_, hSent, ?_⟩
  · simp only [bind, attempt, hSettle]
    rfl
  · cases result with
    | error error => exact ⟨error, t, by simp only [bind, hSettle], hSent⟩
    | ok settled =>
        rw [show [(.ok settled : Outcome)].any isBad = false from rfl, if_neg Bool.false_ne_true]
        simp only [bind, hSettle]
        cases hPending : isPending settled <;> simp [pendingOf, Except.toOption, hPending, pure]

theorem visitRecords_ok (record : OutboxRecord) (rest : List Outcome) :
    visitRecords domainId (.ok record :: rest) = (do
      let first ← (do let outcome ← attempt (settle domainId record); return [outcome])
      let others ← visitRecords domainId rest
      return first ++ others) := rfl

theorem settleAll_cons (record : OutboxRecord) (rest : List OutboxRecord) :
    settleAll domainId (record :: rest) = (do
      let first ← (do
        let settled ← settle domainId record
        return if isPending settled then [settled] else [])
      let others ← settleAll domainId rest
      return first ++ others) := by
  funext env s
  simp only [settleAll, bind]
  rcases settle domainId record env s with ⟨result, t⟩
  cases result with
  | error error => rfl
  | ok settled =>
      simp only [pure]
      rcases settleAll domainId rest env t with ⟨result, u⟩
      cases result with
      | error error => rfl
      | ok others => cases isPending settled <;> rfl

theorem settleAll_agrees (records : List OutboxRecord) :
    Agrees env s (visitRecords domainId (records.map .ok)) (settleAll domainId records) := by
  induction records generalizing s with
  | nil => exact .nil
  | cons record rest ih =>
      rw [List.map_cons, visitRecords_ok, settleAll_cons]
      apply (settle_agrees record).append
      exact fun t _ => ih

/-- The walk goes on past what it cannot read. -/
theorem visitRecords_returns (env : Env) (s : AiJobService) (domainId : String)
    (reads : List Outcome) :
    ∃ found t, visitRecords domainId reads env s = (.ok found, t) ∧ t.sent = s.sent ∧
      (reads.any isBad = true → found.any isBad = true) := by
  induction reads generalizing s with
  | nil => exact ⟨[], s, rfl, rfl, fun h => h⟩
  | cons outcome rest ih =>
      cases outcome with
      | error error =>
          obtain ⟨found, t, hRest, hSent, _⟩ := ih (s := s)
          refine ⟨.error error :: found, t, ?_, hSent, fun _ => rfl⟩
          simp only [visitRecords, bind, hRest]
          rfl
      | ok record =>
          have hSent : ((settle domainId record).final env s).sent = s.sent :=
            Post.final (P := fun t : AiJobService => t.sent = s.sent) (settle_sent record s rfl)
          obtain ⟨found, t, hRest, hKept, hBad⟩ :=
            ih (s := (settle domainId record).final env s)
          refine ⟨(settle domainId record env s).1 :: found, t, ?_, hKept.trans hSent, ?_⟩
          · have hRest' : visitRecords domainId rest env (settle domainId record env s).2 =
                (.ok found, t) := hRest
            simp only [visitRecords, bind, attempt, hRest']
            rfl
          · intro hAny
            rw [List.any_cons, isBad, Bool.false_or] at hAny
            rw [List.any_cons, hBad hAny, Bool.or_true]

theorem list_agrees (io : Io) (files : Files) :
    if (reads io files).any isBad then ∃ error, list io files = .error error
    else ∃ records, list io files = .ok records ∧ reads io files = records.map .ok := by
  rw [list, reads]
  induction recordNames files with
  | nil => exact ⟨[], rfl, rfl⟩
  | cons name rest ih =>
      rw [List.map_cons, List.any_cons, List.mapM_cons]
      cases readPath io files name with
      | error error => exact ⟨error, rfl⟩
      | ok record =>
          rw [isBad, Bool.false_or]
          split at ih
          · next hBad =>
              obtain ⟨error, hFails⟩ := ih
              rw [if_pos hBad, hFails]
              exact ⟨error, rfl⟩
          · next hGood =>
              obtain ⟨records, hList, hReads⟩ := ih
              rw [if_neg hGood, hList, hReads]
              exact ⟨record :: records, rfl, rfl⟩

/-- The directories of the domains can be listed. -/
def Listable (env : Env) (domains : List String) : Prop :=
  ∀ domainId ∈ domains, opens env domainId = true ∧ env.listError domainId = none

theorem openOutbox_runs (h : opens env domainId = true) :
    openOutbox domainId env s = (.ok (), putFiles domainId (s.filesOf domainId) s) := by
  rw [opens, Bool.and_eq_true, Option.isNone_iff_eq_none] at h
  cases hValid : validateDomainStorageId domainId with
  | error error =>
      rw [hValid] at h
      cases h.1
  | ok value =>
      simp only [openOutbox, bind, Proc.read, ofExcept, ofOption, hValid, h.2]
      rfl

/-- A domain, in the walk and in the replay. -/
theorem visitRecords_agrees (io : Io) (files : Files) :
    Agrees env s (visitRecords domainId (reads io files))
      (do let records ← ofExcept (list io files); settleAll domainId records) := by
  have hList := list_agrees io files
  split at hList
  · next hBad =>
      obtain ⟨error, hFails⟩ := hList
      obtain ⟨found, t, hFound, hSent, hAny⟩ := visitRecords_returns env s domainId (reads io files)
      refine ⟨found, t, hFound, hSent, ?_⟩
      rw [if_pos (hAny hBad), hFails]
      exact ⟨error, s, rfl, rfl⟩
  · obtain ⟨records, hRecords, hReads⟩ := hList
    rw [hRecords, hReads]
    exact settleAll_agrees records

/-- The domains are visited one after another; each leaves the files of the others alone. -/
theorem collect_agrees {domains : List String} (h : Listable env domains) :
    Agrees env s (visit domains) (collect domains) := by
  induction domains generalizing s with
  | nil => exact .nil
  | cons domainId rest ih =>
      obtain ⟨hOpens, hList⟩ := h domainId (.head _)
      let opened := putFiles domainId (s.filesOf domainId) s
      have hParts : Agrees env opened
          (do let first ← visitRecords domainId
                (reads (env.files domainId) (opened.filesOf domainId))
              let rest ← visit rest
              return first ++ rest)
          (do let first ← (do
                let records ← ofExcept (list (env.files domainId) (opened.filesOf domainId))
                settleAll domainId records)
              let rest ← collect rest
              return first ++ rest) := by
        apply (visitRecords_agrees _ _).append
        exact fun t _ => ih fun d hd => h d (.tail _ hd)
      have hWalk : visit (domainId :: rest) env s =
          (do let first ← visitRecords domainId
                (reads (env.files domainId) (opened.filesOf domainId))
              let rest ← visit rest
              return first ++ rest : Handler (List Outcome)) env opened := by
        simp only [visit, bind, Proc.read, openOutbox_runs hOpens, hList, ofOption, Proc.get]
        rfl
      have hReplay : collect (domainId :: rest) env s =
          (do let first ← (do
                let records ← ofExcept (list (env.files domainId) (opened.filesOf domainId))
                settleAll domainId records)
              let rest ← collect rest
              return first ++ rest : Handler (List OutboxRecord)) env opened := by
        have hOpened : collect (domainId :: rest) env s =
            (do let records ← ofExcept (list (env.files domainId) (opened.filesOf domainId))
                let first ← settleAll domainId records
                let rest ← collect rest
                return first ++ rest : Handler (List OutboxRecord)) env opened := by
          simp only [collect, bind, Proc.read, openOutbox_runs hOpens, hList, ofOption, Proc.get]
          rfl
        rw [hOpened]
        cases list (env.files domainId) (opened.filesOf domainId) <;> rfl
      obtain ⟨found, t, hFound, hSent, hReplayed⟩ := hParts
      refine ⟨found, t, hWalk.trans hFound, hSent, ?_⟩
      rw [hReplay]
      exact hReplayed

theorem pendingMessage_of_not_pending {record : OutboxRecord} (h : isPending record = false) :
    record.pendingMessage = none := by
  rw [OutboxRecord.pendingMessage]
  split <;> simp_all [isPending]

theorem filterMap_pendingOf (found : List Outcome) :
    (pendingOf found).filterMap OutboxRecord.pendingMessage =
      (found.filterMap Except.toOption).filterMap OutboxRecord.pendingMessage := by
  rw [pendingOf]
  induction found.filterMap Except.toOption with
  | nil => rfl
  | cons record rest ih =>
      rw [List.filter_cons]
      split
      · rw [List.filterMap_cons, List.filterMap_cons, ih]
      · next hNot =>
          rw [Bool.not_eq_true] at hNot
          rw [List.filterMap_cons, pendingMessage_of_not_pending hNot, ih]

/-- With room in the queue every message is sent. -/
theorem sendAll_sends (hQueue : ∀ n, env.takes n = true) (records : List OutboxRecord) :
    Post (sendAll records) env s
      (fun _ t => t.sent = s.sent ++ records.filterMap OutboxRecord.pendingMessage)
      fun _ => False := by
  induction records generalizing s with
  | nil => exact (List.append_nil _).symm
  | cons record rest ih =>
      rw [sendAll]
      cases hMessage : record.pendingMessage with
      | none =>
          rw [List.filterMap_cons, hMessage]
          exact ih
      | some message =>
          rw [List.filterMap_cons, hMessage, post_bind]
          apply post_attempt_of
          rw [trySend, post_bind, post_read, post_bind, post_get, post_ite, if_pos (hQueue _),
            post_modify]
          apply ih.mono
          · intro _ t ht
            rw [ht, List.append_assoc]
            rfl
          · exact fun _ h => h

theorem toOption_mem {found : List Outcome} {record : OutboxRecord} :
    record ∈ found.filterMap Except.toOption ↔ (.ok record : Outcome) ∈ found := by
  rw [List.mem_filterMap]
  constructor
  · rintro ⟨outcome, hMem, hOk⟩
    cases outcome with
    | error error => cases hOk
    | ok other =>
        obtain rfl := Option.some.inj hOk
        exact hMem
  · intro hMem
    exact ⟨_, hMem, rfl⟩

/-- A replay sends all messages that are due, or none of them. -/
theorem resent_eq (hDomains : env.domainsError = none)
    (hListable : Listable env s.outboxes.entries.keys) (hConnected : env.connected = true)
    (hQueue : ∀ n, env.takes n = true) :
    resent env s = if (outcomes env s).any isBad then [] else
      ((outcomes env s).filterMap Except.toOption).filterMap OutboxRecord.pendingMessage := by
  obtain ⟨found, t, hWalk, hSent, hReplayed⟩ := collect_agrees (s := s) hListable
  have hFound : outcomes env s = found := by
    rw [outcomes, hWalk]
  have hReplay : replayPending.final env s = ((do
      let records ← collect s.outboxes.entries.keys
      if env.connected then sendAll records else return : Handler Unit).final env s) := by
    simp only [Proc.final, replayPending, bind, Proc.read, ofOption, hDomains, Proc.get]
    rfl
  rw [resent, hFound, hReplay]
  split at hReplayed
  · next hBad =>
      obtain ⟨error, t', hFails, hKept⟩ := hReplayed
      rw [if_pos hBad]
      simp only [Proc.final, bind, hFails, hKept]
      exact List.drop_length
  · next hGood =>
      rw [if_neg hGood]
      have hSends := sendAll_sends (s := t) hQueue (pendingOf found)
      have hFinal : ((sendAll (pendingOf found)).final env t).sent =
          t.sent ++ (pendingOf found).filterMap OutboxRecord.pendingMessage :=
        Post.final (P := fun u : AiJobService => u.sent = _)
          (hSends.mono (fun _ _ h => h) fun _ h => h.elim)
      have hEnd : (do
          let records ← collect s.outboxes.entries.keys
          if env.connected then sendAll records else return : Handler Unit).final env s =
            (sendAll (pendingOf found)).final env t := by
        simp only [Proc.final, bind, hReplayed, hConnected]
        rfl
      rw [hEnd, hFinal, hSent, List.drop_left, filterMap_pendingOf]

/-- A replay leaves no good record behind just when no record is bad, or no good record has
anything to send. -/
theorem replay_isolated_iff (env : Env) (s : AiJobService) (hDomains : env.domainsError = none)
    (hListable : Listable env s.outboxes.entries.keys) (hConnected : env.connected = true)
    (hQueue : ∀ n, env.takes n = true) :
    Isolated env s ↔ (∀ outcome ∈ outcomes env s, isBad outcome = false) ∨
      ∀ record, .ok record ∈ outcomes env s → record.pendingMessage = none := by
  rw [Isolated, resent_eq hDomains hListable hConnected hQueue]
  cases hBad : (outcomes env s).any isBad with
  | true =>
      rw [if_pos rfl]
      constructor
      · intro h
        right
        intro record hMem
        cases hMessage : record.pendingMessage with
        | none => rfl
        | some message => exact absurd (h record message hMem hMessage) List.not_mem_nil
      · rintro (hGood | hNothing) record message hMem hMessage
        · obtain ⟨outcome, hOutcome, hTrue⟩ := List.any_eq_true.mp hBad
          rw [hGood outcome hOutcome] at hTrue
          cases hTrue
        · rw [hNothing record hMem] at hMessage
          cases hMessage
  | false =>
      rw [if_neg Bool.false_ne_true]
      constructor
      · intro _
        left
        intro outcome hMem
        rw [List.any_eq_false] at hBad
        exact Bool.eq_false_iff.mpr (hBad outcome hMem)
      · intro _ record message hMem hMessage
        exact List.mem_filterMap.mpr ⟨record, toOption_mem.mpr hMem, hMessage⟩

/-- Two domains, one of them with a submission that waits, the other with the given file. -/
def twoDomains (file : StoredFile) : AiJobService where
  outboxes := (Table.empty.insert "a" (Table.empty.insert "x.json" file)).insert "d"
    (Table.empty.insert "j.json" (.record (newRecord (submissionOf "j" "d") 0)))
  results := .empty
  active := .empty
  sent := []

/-- A file of one domain that cannot be decoded keeps the other domain waiting. -/
theorem replay_stalled :
    (∃ outcome ∈ outcomes (calm true) (twoDomains .undecodable), isBad outcome = true) ∧
      ¬ Isolated (calm true) (twoDomains .undecodable) := by
  have hBad : (outcomes (calm true) (twoDomains .undecodable)).any isBad = true := by
    decide
  refine ⟨List.any_eq_true.mp hBad, ?_⟩
  intro h
  have hMem := h (newRecord (submissionOf "j" "d") 0)
    (.submitPostCallJob (submissionOf "j" "d")) (by decide) rfl
  have hNone : resent (calm true) (twoDomains .undecodable) = [] := by decide
  rw [hNone] at hMem
  cases hMem

theorem replay_isolated_two :
    Isolated (calm true) (twoDomains (.record (newRecord (submissionOf "x" "a") 0))) :=
  (replay_isolated_iff (calm true) _ rfl (by unfold Listable; decide) rfl
    fun _ => rfl).mpr (.inl (by decide))

end Agreement

end VoipSwitch.AiOutbox.AiJobService
