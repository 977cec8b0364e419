import CertGate.Directory.Kubernetes
import CertGate.Proofs.GatewayMediation
import CertGate.Proofs.HeaderFields
import CertGate.Proofs.Utf8RoundTrip
import CertGate.Proofs.WrittenFiles

/-!
# Lookups in a cluster

Files are written anew while records are looked up. A lookup is made with what the token file holds at
its moment, and what comes of it is decided by this and by the answer alone: no lookup leaves anything
behind for the next.

## Key results

- `runsAlike_get`: with the same token and the same answers a lookup gives and sends the same
- `looksUp_get`: what it gives and sends
- `looksUpAnew_run`: a lookup at any place of any run
-/

namespace CertGate

open Text.Utf8 (bytes decodeLossy)

/-! ## Sending -/

/-- From `log` on, `answerOf` answers as `answerOf'` does from `log'` on. -/
def AnswersAlike (answerOf : List Sending → Transport Id) (log : List Sending)
    (answerOf' : List Sending → Transport Id) (log' : List Sending) : Prop :=
  ∀ more, answerOf (log ++ more) = answerOf' (log' ++ more)

/-- From these logs on, `x` and `x'` give and send the same. -/
def RunsAlike {α : Type} (x : StateM (List Sending) α) (log : List Sending)
    (x' : StateM (List Sending) α) (log' : List Sending) : Prop :=
  ∃ result more, x.run log = (result, log ++ more) ∧ x'.run log' = (result, log' ++ more)

section
variable {answerOf answerOf' : List Sending → Transport Id} {log log' : List Sending}

/-- `AnswersAlike` servers give the same answer now. -/
theorem AnswersAlike.now (h : AnswersAlike answerOf log answerOf' log') :
    answerOf log = answerOf' log' := by
  have hnil := h []
  rwa [List.append_nil, List.append_nil] at hnil

/-- `AnswersAlike` is kept by one more sending on both sides. -/
theorem AnswersAlike.later (h : AnswersAlike answerOf log answerOf' log') (s : Sending) :
    AnswersAlike answerOf (log ++ [s]) answerOf' (log' ++ [s]) := fun more => by
  rw [List.append_assoc, List.append_assoc]
  exact h ([s] ++ more)

/-- `RunsAlike` holds of a result that is there already. -/
theorem RunsAlike.refl_pure {α : Type} (a : α) : RunsAlike (pure a) log (pure a) log' :=
  ⟨a, [], by rw [List.append_nil]; rfl, by rw [List.append_nil]; rfl⟩

/-- `RunsAlike` is kept by what is made of the result. -/
theorem RunsAlike.map {α β : Type} {x x' : StateM (List Sending) α} (h : RunsAlike x log x' log')
    (f : α → β) : RunsAlike (f <$> x) log (f <$> x') log' := by
  obtain ⟨a, more, hrun, hrun'⟩ := h
  refine ⟨f a, more, ?_, ?_⟩
  · rw [StateT.run_map, hrun]; rfl
  · rw [StateT.run_map, hrun']; rfl

end

namespace RedirectPolicy

open Gateway (run_recording_bind)

variable (next? : Redirection) (answerOf answerOf' : List Sending → Transport Id)
  (goOn goOn' : Transport (StateM (List Sending))) (r : OutboundRequest) (body : List UInt8)
  (log log' : List Sending)

/-- `sendOn` without an answer. -/
theorem run_sendOn_of_error (message : String) (h : answerOf log r body = .error message) :
    (sendOn next? (recording answerOf) goOn r body).run log = (.error message, log ++ [(r, body)]) := by
  rw [sendOn, run_recording_bind, h]
  rfl

/-- `sendOn` with an answer that leads nowhere. -/
theorem run_sendOn_of_none (answer : Http.Response) (h : answerOf log r body = .ok answer)
    (hlead : (if answer.isRedirect then next? r body answer else Option.none) = Option.none) :
    (sendOn next? (recording answerOf) goOn r body).run log = (.ok answer, log ++ [(r, body)]) := by
  simp only [sendOn, run_recording_bind, h, hlead]
  rfl

/-- `sendOn` with an answer that leads on to `next`. -/
theorem run_sendOn_of_some (answer : Http.Response) (h : answerOf log r body = .ok answer)
    (next : OutboundRequest) (body' : List UInt8)
    (hlead : (if answer.isRedirect then next? r body answer else Option.none) = some (next, body')) :
    (sendOn next? (recording answerOf) goOn r body).run log =
      (goOn next body').run (log ++ [(r, body)]) := by
  simp only [sendOn, run_recording_bind, h, hlead]

/-- `sendOn` depends on the answers from now on alone, if `goOn` does. -/
theorem runsAlike_sendOn (halike : AnswersAlike answerOf log answerOf' log')
    (hgo : ∀ r body log log', AnswersAlike answerOf log answerOf' log' →
      RunsAlike (goOn r body) log (goOn' r body) log') :
    RunsAlike (sendOn next? (recording answerOf) goOn r body) log
      (sendOn next? (recording answerOf') goOn' r body) log' := by
  -- both are given the same answer now, and so go on the same way
  have hnow : answerOf' log' r body = answerOf log r body := by rw [halike.now]
  cases hanswer : answerOf log r body with
  | error message =>
    -- no answer
    exact ⟨_, _, run_sendOn_of_error next? answerOf goOn r body log message hanswer,
      run_sendOn_of_error next? answerOf' goOn' r body log' message (hnow.trans hanswer)⟩
  | ok answer =>
    cases hlead : if answer.isRedirect then next? r body answer else Option.none with
    | none =>
      -- an answer to give out
      exact ⟨_, _, run_sendOn_of_none next? answerOf goOn r body log answer hanswer hlead,
        run_sendOn_of_none next? answerOf' goOn' r body log' answer (hnow.trans hanswer) hlead⟩
    | some lead =>
      -- an answer that leads on, after which both logs have one sending more
      obtain ⟨next, body'⟩ := lead
      obtain ⟨result, more, hrun, hrun'⟩ := hgo next body' _ _ (halike.later (r, body))
      refine ⟨result, [(r, body)] ++ more, ?_, ?_⟩
      · rw [run_sendOn_of_some next? answerOf goOn r body log answer hanswer next body' hlead, hrun,
          List.append_assoc]
      · rw [run_sendOn_of_some next? answerOf' goOn' r body log' answer (hnow.trans hanswer) next body'
          hlead, hrun', List.append_assoc]

/-- `follow` depends on the answers from now on alone, wherever they lead. -/
theorem runsAlike_follow (count : Nat) (halike : AnswersAlike answerOf log answerOf' log') :
    RunsAlike (follow next? (recording answerOf) count r body) log
      (follow next? (recording answerOf') count r body) log' := by
  induction count generalizing r body log log' with
  | zero =>
    -- an answer that still leads on ends in an error, and nothing more is sent
    exact runsAlike_sendOn next? answerOf answerOf' _ _ r body log log' halike
      fun _ _ _ _ _ => .refl_pure _
  | succ count ih =>
    exact runsAlike_sendOn next? answerOf answerOf' _ _ r body log log' halike ih

/-- `follow` sends one request if the answer to it does not lead elsewhere. -/
theorem run_follow_of_not_isRedirect (count : Nat)
    (h : ∀ answer, answerOf log r body = .ok answer → answer.isRedirect = false) :
    (follow next? (recording answerOf) count r body).run log =
      (answerOf log r body, log ++ [(r, body)]) := by
  obtain ⟨goOn, hfollow⟩ : ∃ goOn, follow next? (recording answerOf) count r body =
      sendOn next? (recording answerOf) goOn r body := by
    cases count <;> exact ⟨_, rfl⟩
  rw [hfollow]
  cases hanswer : answerOf log r body with
  | error message => exact run_sendOn_of_error next? answerOf goOn r body log message hanswer
  | ok answer =>
    exact run_sendOn_of_none next? answerOf goOn r body log answer hanswer
      (if_neg (by rw [h answer hanswer]; exact Bool.false_ne_true))

end RedirectPolicy

namespace KubernetesDirectory

/-! ## The token of a lookup -/

section
variable (base : Url) (path : String) (files : Files)

/-- `token` is the text of its file, trimmed by `trimBlank`. -/
theorem token_of_text (s : String) (h : files.read path = .ok (bytes s)) :
    token ⟨base, some path⟩ files = .ok (some (Text.trimBlank s)) := by
  simp only [token, h, Text.Utf8.text?_bytes]

/-- `token` fails if there is no text in its file. -/
theorem exists_token_eq_error (h : ¬∃ s, files.read path = .ok (bytes s)) :
    ∃ e, token ⟨base, some path⟩ files = .error (.token e) := by
  cases hread : files.read path with
  | error e => exact ⟨e, by simp only [token, hread]⟩
  | ok bs =>
    cases htext : Text.Utf8.text? bs with
    | none =>
      exact ⟨.other "stream did not contain valid UTF-8", by simp only [token, hread, htext]⟩
    | some s => exact absurd ⟨s, by rw [hread, Text.Utf8.bytes_of_text? bs s htext]⟩ h

/-- `token` depends on what its file holds, and on no other file. -/
theorem token_congr (files' : Files) (h : files'.read path = files.read path) :
    token ⟨base, some path⟩ files' = token ⟨base, some path⟩ files := by
  simp only [token, h]

end

/-- The `authorization` of a `request` is the token, and nothing but that. -/
theorem values_authorization_request (d : KubernetesDirectory) (name t : String) :
    (d.request name (some t)).headers.values "authorization" = [bytes ("Bearer " ++ t)] := by
  have hnone : Http.Headers.values ⟨[("accept", bytes "application/json")]⟩ "authorization" = [] := by
    simp [Http.Headers.values]
  rw [request, Http.Headers.values_append, hnone, if_pos rfl, List.nil_append]

/-! ## One lookup -/

section
variable {d : KubernetesDirectory} {wording : Wording} {next? : Redirection}
  {answerOf answerOf' : List Sending → Transport Id} {files files' : Files} {log log' : List Sending}
  {name : String}

/-- `get` without a token that could be read. -/
theorem run_get_of_error (e : DirectoryError) (h : d.token files = .error e) :
    (d.get wording next? (recording answerOf) files name).run log = (.error e, log) := by
  simp only [get, h]
  rfl

/-- `get` with a token that no header can carry. -/
theorem run_get_of_not_isSendable (t? : Option String) (h : d.token files = .ok t?)
    (ht : t?.map isSendable = some false) :
    (d.get wording next? (recording answerOf) files name).run log =
      (.error (.http "builder error"), log) := by
  simp only [get, h, if_pos ht]
  rfl

/-- What `get` gives in the end: the classified answer, or the failure of the transport. -/
def conclude (wording : Wording) (name : String) :
    Except String Http.Response → Except DirectoryError Application
  | .ok answer => classify wording name answer
  | .error message => .error (.http message)

/-- `get` with a token that can be sent, or none: the request is followed, and the result concluded. -/
theorem get_of_isSendable (t? : Option String) (h : d.token files = .ok t?)
    (ht : t?.map isSendable ≠ some false) :
    d.get wording next? (recording answerOf) files name =
      conclude wording name <$>
        RedirectPolicy.follow next? (recording answerOf) 10 (d.request name t?) [] := by
  -- what is done with a result at the end is the same, wherever it is returned from
  have hcont : ∀ result : Except String Http.Response, pure (conclude wording name result) =
      (match result with
        | .ok answer => pure (classify wording name answer)
        | .error message => pure (.error (.http message)) :
        StateM (List Sending) (Except DirectoryError Application)) := by
    rintro (message | answer) <;> rfl
  simp only [get, h, if_neg ht, map_eq_pure_bind, hcont]
  rfl

/-- `get` when the answer leads nowhere else. -/
theorem run_get_of_not_isRedirect (t? : Option String) (h : d.token files = .ok t?)
    (ht : t?.map isSendable ≠ some false)
    (hredirect : ∀ answer, answerOf log (d.request name t?) [] = .ok answer →
      answer.isRedirect = false) :
    (d.get wording next? (recording answerOf) files name).run log =
      (conclude wording name (answerOf log (d.request name t?) []),
        log ++ [(d.request name t?, [])]) := by
  rw [get_of_isSendable t? h ht, StateT.run_map,
    RedirectPolicy.run_follow_of_not_isRedirect next? answerOf _ [] log 10 hredirect]
  rfl

/-- `get` depends on its token and on the answers from now on alone. -/
theorem runsAlike_get (halike : AnswersAlike answerOf log answerOf' log')
    (htoken : d.token files' = d.token files) :
    RunsAlike (d.get wording next? (recording answerOf) files name) log
      (d.get wording next? (recording answerOf') files' name) log' := by
  cases h : d.token files with
  | error e =>
    -- no token, so nothing is sent on either side
    rw [h] at htoken
    exact ⟨.error e, [], by rw [run_get_of_error e h, List.append_nil],
      by rw [run_get_of_error e htoken, List.append_nil]⟩
  | ok t? =>
    rw [h] at htoken
    by_cases ht : t?.map isSendable = some false
    · -- a token that cannot be sent, so nothing is on either side
      exact ⟨.error (.http "builder error"), [],
        by rw [run_get_of_not_isSendable t? h ht, List.append_nil],
        by rw [run_get_of_not_isSendable t? htoken ht, List.append_nil]⟩
    · rw [get_of_isSendable t? h ht, get_of_isSendable t? htoken ht]
      exact (RedirectPolicy.runsAlike_follow next? answerOf answerOf' _ _ log log' 10 halike).map _

end

/-- What comes of an `answer` that leads nowhere else. -/
structure Classified (wording : Wording) (name : String) (answer : Http.Response)
    (result : Except DirectoryError Application) : Prop where
  not_found : answer.status = 404 → result = .error (.notFound name)
  /-- Any other failure keeps the first 512 characters of what could be read of its text. -/
  failed : answer.status ≠ 404 → ¬(200 ≤ answer.status ∧ answer.status ≤ 299) →
    ∃ text : String, result = .error (.status answer.status text) ∧
      text.toList = (decodeLossy answer.body).take (min 512 (decodeLossy answer.body).length)
  decoded : 200 ≤ answer.status → answer.status ≤ 299 →
    result = (Application.read answer.body).mapError fun fault =>
      .decode fault (wording answer.body fault)

/-- `classify` gives what is `Classified`. -/
theorem classified_classify (wording : Wording) (name : String) (answer : Http.Response) :
    Classified wording name answer (classify wording name answer) where
  not_found h := by rw [classify, if_pos h]
  failed h hfailed := by
    refine ⟨_, by rw [classify, if_neg h, if_neg (by omega)], ?_⟩
    rw [String.toList_ofList, List.take_eq_take_min]
    rfl
  decoded hle hge := by rw [classify, if_neg (by omega), if_pos (by omega), readRecord]

/-- What a lookup of `name` gives and sends, if the token file holds `content` at its moment. -/
structure LooksUp (d : KubernetesDirectory) (wording : Wording)
    (answerOf : List Sending → Transport Id) (content : Except IoError (List UInt8)) (name : String)
    (log : List Sending) (outcome : Except DirectoryError Application × List Sending) : Prop where
  /-- What is taken for the token is the text of the file without the blanks at its ends. -/
  trimmed : ∀ s, content = .ok (bytes s) →
    Text.Trimmed Text.isBlank s.toList (Text.trimBlank s).toList
  /-- Without a text in the file nothing is sent. -/
  unreadable : (¬∃ s, content = .ok (bytes s)) →
    (∃ e, outcome.1 = .error (.token e)) ∧ outcome.2 = log
  /-- A token that no header can carry is not sent either. -/
  unsendable : ∀ s, content = .ok (bytes s) → isSendable (Text.trimBlank s) = false →
    (∃ message, outcome.1 = .error (.http message)) ∧ outcome.2 = log
  /-- Every other token is sent in a single request, and what comes of it is up to the answer. -/
  sent : ∀ s, content = .ok (bytes s) → isSendable (Text.trimBlank s) = true →
    ∃ r : OutboundRequest, r.method = "GET" ∧ r.url = d.resourceUrl name ∧
      r.headers.values "authorization" = [bytes ("Bearer " ++ Text.trimBlank s)] ∧
      (∀ message, answerOf log r [] = .error message →
        outcome = (.error (.http message), log ++ [(r, [])])) ∧
      ∀ answer, answerOf log r [] = .ok answer → answer.isRedirect = false →
        outcome.2 = log ++ [(r, [])] ∧ Classified wording name answer outcome.1

section
variable (base : Url) (path : String) (wording : Wording) (next? : Redirection)
  (answerOf : List Sending → Transport Id) (files : Files) (log : List Sending) (name : String)

/-- `get` `LooksUp` with what the token file holds. -/
theorem looksUp_get : LooksUp ⟨base, some path⟩ wording answerOf (files.read path) name log
    ((get ⟨base, some path⟩ wording next? (recording answerOf) files name).run log) where
  trimmed s _ := by
    rw [Text.trimBlank, String.toList_ofList]
    exact Text.trimmed_trim Text.isBlank s.toList
  unreadable h := by
    obtain ⟨e, he⟩ := exists_token_eq_error base path files h
    rw [run_get_of_error _ he]
    exact ⟨⟨e, rfl⟩, rfl⟩
  unsendable s h ht := by
    rw [run_get_of_not_isSendable _ (token_of_text base path files s h) (congrArg some ht)]
    exact ⟨⟨_, rfl⟩, rfl⟩
  sent s h ht := by
    have htoken := token_of_text base path files s h
    have hsendable : (some (Text.trimBlank s)).map isSendable ≠ some false := by
      rw [Option.map_some, ht]
      exact nofun
    refine ⟨request ⟨base, some path⟩ name (some (Text.trimBlank s)), rfl, rfl,
      values_authorization_request _ _ _, fun message hanswer => ?_, fun answer hanswer hredirect => ?_⟩
    · -- no answer
      rw [run_get_of_not_isRedirect _ htoken hsendable fun _ h => by
        rw [hanswer] at h
        cases h]
      rw [hanswer]
      rfl
    · -- an answer that leads nowhere else
      rw [run_get_of_not_isRedirect _ htoken hsendable fun _ h => by
        rw [hanswer] at h
        cases h
        exact hredirect]
      rw [hanswer]
      exact ⟨rfl, classified_classify wording name answer⟩

/-! ## Runs -/

/-- The files after every `Event.write` among these events. -/
def written (files : Files) : List Event → Files
  | [] => files
  | .write file content :: events => written (files.write file content) events
  | .lookup _ :: events => written files events

/-- `written` for events one after the other. -/
theorem written_append (before behind : List Event) :
    written files (before ++ behind) = written (written files before) behind := by
  induction before generalizing files with
  | nil => rfl
  | cons event before ih => cases event <;> exact ih _

variable (d : KubernetesDirectory)

/-- `run` leaves the files as they are `written`: lookups do not touch them. -/
theorem files_run (events : List Event) :
    ((d.run wording next? (recording answerOf) files events).run log).1.2 = written files events := by
  induction events generalizing files log with
  | nil => rfl
  | cons event events ih =>
    cases event with
    | write file content => exact ih _ _
    | lookup name => exact ih _ _

/-- `run` handles one event and goes on. -/
theorem run_cons (event : Event) (events : List Event) :
    let first := (d.handle wording next? (recording answerOf) files event).run log
    let rest := (d.run wording next? (recording answerOf) first.1.2 events).run first.2
    (d.run wording next? (recording answerOf) files (event :: events)).run log =
      ((first.1.1 :: rest.1.1, rest.1.2), rest.2) := rfl

/-- `run` of events one after the other. -/
theorem run_append (before behind : List Event) :
    let earlier := (d.run wording next? (recording answerOf) files before).run log
    let later := (d.run wording next? (recording answerOf) earlier.1.2 behind).run earlier.2
    (d.run wording next? (recording answerOf) files (before ++ behind)).run log =
      ((earlier.1.1 ++ later.1.1, later.1.2), later.2) := by
  induction before generalizing files log with
  | nil => rfl
  | cons event before ih =>
    dsimp only at ih ⊢
    rw [List.cons_append, run_cons, run_cons, ih]
    rfl

end

/-- What a lookup of `d` gives and sends in the midst of a run. -/
structure LooksUpAnew (d : KubernetesDirectory) (path : String) (wording : Wording)
    (next? : Redirection) (answerOf : List Sending → Transport Id) (files : Files) (log : List Sending)
    (before : List Event) (name : String) (behind : List Event)
    (outcome : Except DirectoryError Application × List Sending) : Prop where
  /-- The lookup is there between what was given and sent before, and what is behind it. -/
  in_run :
    let earlier := (d.run wording next? (recording answerOf) files before).run log
    let later := (d.run wording next? (recording answerOf) (written files before) behind).run outcome.2
    (d.run wording next? (recording answerOf) files (before ++ .lookup name :: behind)).run log =
      ((earlier.1.1 ++ some outcome.1 :: later.1.1, later.1.2), later.2)
  /-- It is made with what the token file holds at its moment. -/
  current : LooksUp d wording answerOf ((written files before).read path) name
    ((d.run wording next? (recording answerOf) files before).run log).2 outcome
  /-- Once the token file is written anew, it holds what was written. -/
  rotated : ∀ content, (∃ bs, (written files before).read path = .ok bs) →
    (written files (before ++ [.write path content])).read path = .ok content
  /-- A directory that has seen nothing of all this does the same, if the file holds the same and the
  answers from now on are the same. -/
  forgets : ∀ (answerOf' : List Sending → Transport Id) (files' : Files) (log' : List Sending),
    AnswersAlike answerOf ((d.run wording next? (recording answerOf) files before).run log).2
      answerOf' log' →
    files'.read path = (written files before).read path →
    ∃ more, outcome.2 =
        ((d.run wording next? (recording answerOf) files before).run log).2 ++ more ∧
      (d.get wording next? (recording answerOf') files' name).run log' = (outcome.1, log' ++ more)

/-- Every lookup of a run `LooksUpAnew`: with the token of its moment, and nothing that an earlier one
has left. -/
theorem looksUpAnew_run (base : Url) (path : String) (wording : Wording) (next? : Redirection)
    (answerOf : List Sending → Transport Id) (files : Files) (log : List Sending)
    (before : List Event) (name : String) (behind : List Event) :
    ∃ outcome, LooksUpAnew ⟨base, some path⟩ path wording next? answerOf files log before name behind
      outcome := by
  -- a lookup leaves the files alone, so those of its moment are the ones that were written
  have hfiles := files_run wording next? answerOf files log ⟨base, some path⟩ before
  refine ⟨_, ?in_run, looksUp_get base path wording next? answerOf (written files before)
    ((run ⟨base, some path⟩ wording next? (recording answerOf) files before).run log).2 name,
    ?rotated, ?forgets⟩
  case in_run =>
    dsimp only
    rw [run_append, run_cons, hfiles]
    rfl
  case rotated =>
    intro content hthere
    rw [written_append]
    exact Files.read_write hthere
  case forgets =>
    intro answerOf' files' log' halike hread
    have halike : RunsAlike _ _
        (get ⟨base, some path⟩ wording next? (recording answerOf') files' name) log' :=
      runsAlike_get halike (token_congr base path (written files before) files' hread)
    obtain ⟨result, more, hrun, hrun'⟩ := halike
    rw [hrun]
    exact ⟨more, rfl, hrun'⟩

/-- A directory with a token in a file, in front of a server that is known by its URL alone. -/
def rotatingDirectory : KubernetesDirectory where
  base := { scheme := "http", path := .segments [""] }
  tokenFile := some "token"

/-- An overloaded server says so at length: 511 characters of two bytes each, a byte that starts no
character, and more than is kept. -/
def overloadedServer : List Sending → Transport Id := fun _ _ _ =>
  .ok { status := 503, body := (List.replicate 511 [0xC3, 0xA9]).flatten ++ 0xFF :: bytes "tail" }

/-- A lookup, after which the token is written anew, with blanks of several kinds around it. -/
def rotation : List Event :=
  [.lookup "app1", .write "token" (bytes "\t two\u3000\n")]

/-- A lookup after `rotation` is made with the new token alone, and keeps 512 characters of the answer
of `overloadedServer`, the last of which stands for the byte that cannot be read. -/
theorem looksUpAnew_run_rotation :
    ∃ outcome,
      LooksUpAnew rotatingDirectory "token" (fun _ _ => "") (fun _ _ _ => none) overloadedServer
        { entries := [("token", bytes "one\n")] } [] rotation "app1" [] outcome ∧
      (∃ text : String, outcome.1 = .error (.status 503 text) ∧
        text.toList = List.replicate 511 'é' ++ ['\uFFFD']) ∧
      outcome.2.map (·.1.headers.values "authorization") =
        [[bytes "Bearer one"], [bytes "Bearer two"]] := by
  obtain ⟨outcome, h⟩ := looksUpAnew_run rotatingDirectory.base "token" (fun _ _ => "")
    (fun _ _ _ => none) overloadedServer { entries := [("token", bytes "one\n")] } [] rotation "app1" []
  refine ⟨outcome, h, ?_⟩
  -- the token of the lookup is the one written last
  have htoken : (written { entries := [("token", bytes "one\n")] } rotation).read "token" =
      .ok (bytes "\t two\u3000\n") := Except.eq_ok_of_toOption (by decide +kernel)
  obtain ⟨r, -, -, hbearer, -, hanswered⟩ := h.current.sent _ htoken (by decide +kernel)
  obtain ⟨hsent, hclassified⟩ := hanswered _ rfl rfl
  constructor
  · obtain ⟨text, hresult, htext⟩ := hclassified.failed (by decide) (by decide)
    exact ⟨text, hresult, htext.trans (by decide +kernel)⟩
  · -- and the earlier lookup was made with the one before
    have hearlier : ((run rotatingDirectory (fun _ _ => "") (fun _ _ _ => none)
        (recording overloadedServer) { entries := [("token", bytes "one\n")] } rotation).run []).2.map
          (·.1.headers.values "authorization") = [[bytes "Bearer one"]] := by decide +kernel
    have htrimmed : bytes ("Bearer " ++ Text.trimBlank "\t two\u3000\n") = bytes "Bearer two" := by
      decide +kernel
    rw [hsent, List.map_append, List.map_singleton, hbearer, htrimmed]
    exact congrArg (· ++ [[bytes "Bearer two"]]) hearlier

end KubernetesDirectory

end CertGate
