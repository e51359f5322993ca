import AzureAci.Provider

/-!
# Running a command in a container

`RunInContainer` asks the gateway for an exec session on the pod's container group, dials the
web socket it names and sends the password. Then two loops copy data: a goroutine copies `stdin`
to the socket, and the function itself copies the socket's frames to `stdout`. Each loop checks
the context with a `select` that has a `default` case, and so takes `ctx.Done()` exactly when the
context is cancelled at that moment. The gateway, the socket and the streams are the environment:
a run is the sequence of events the context and the two loops go through, each event carrying
what the environment answered. In the goroutine the cancelled case `return`s. In the output loop
it `break`s, which in Go leaves the `select` and not the `for`, so the loop goes on to
`NextReader` and leaves only when the connection or the copy fails.
-/

namespace AzureAci

/-- `azaci.ContainerExecRequest`. -/
structure ContainerExecRequest where
  /-- `Command`. -/
  command : String
  /-- `TerminalSize.Cols`. -/
  cols : Int
  /-- `TerminalSize.Rows`. -/
  rows : Int
  deriving DecidableEq, Repr

/-- The request `RunInContainer` sends: the arguments joined with spaces, and the default
terminal size. -/
def execRequest (cmd : List String) : ContainerExecRequest :=
  { command := " ".intercalate cmd, cols := 60, rows := 120 }

/-- `azaci.ContainerExecResponse`, with the fields `RunInContainer` reads. -/
structure ContainerExecResponse where
  /-- `WebSocketURI`. -/
  webSocketURI : String
  /-- `Password`. -/
  password : String
  deriving DecidableEq, Repr

/-- What `RunInContainer` calls before its copy loops. -/
structure ExecCollaborators where
  /-- `GetContainerGroupInfo(ctx, resourceGroup, namespace, name, nodeName)`, giving `cg.Name`. -/
  getContainerGroupInfo : String → String → String → String → Except GoError String
  /-- `ExecuteContainerCommand(ctx, resourceGroup, cgName, container, req)`. -/
  executeContainerCommand :
    String → String → String → ContainerExecRequest → Except GoError ContainerExecResponse
  /-- `websocket.DefaultDialer.Dial(wsURI, nil)`. -/
  dial : String → Except GoError Unit
  /-- `c.WriteMessage(websocket.TextMessage, []byte(password))`. -/
  writePassword : String → Except GoError Unit

/-- The part of `RunInContainer` before its copy loops: the session opened and authenticated, or
the first error. -/
def openExecSession (c : ExecCollaborators) (p : ACIProvider)
    (podNamespace name container : String) (cmd : List String) : Except GoError Unit := do
  let cgName ← c.getContainerGroupInfo p.resourceGroup podNamespace name p.nodeName
  let xcrsp ← c.executeContainerCommand p.resourceGroup cgName container (execRequest cmd)
  c.dial xcrsp.webSocketURI
  c.writePassword xcrsp.password

/-- Where the goroutine copying `stdin` to the socket is. -/
inductive InputPc where
  /-- At the `select` on `ctx.Done()`. -/
  | check
  /-- About to call `in.Read(msg)`. -/
  | read
  /-- About to send the bytes read with `c.WriteMessage`. -/
  | write
  /-- Returned, or never started because `in` is `nil`. -/
  | done
  deriving DecidableEq, Repr

/-- Where the loop copying the socket's frames to `stdout` is. -/
inductive OutputPc where
  /-- At the `select` on `ctx.Done()`. -/
  | check
  /-- About to call `c.NextReader()`. -/
  | nextReader
  /-- About to call `io.Copy(out, cr)`. -/
  | copy
  /-- Out of the loop, or never in it because `out` is `nil`. -/
  | done
  deriving DecidableEq, Repr

/-- A running `RunInContainer`: the context and the two copy loops. -/
structure ExecState where
  /-- `ctx.Err()`: `none` until the context is cancelled. -/
  err : Option GoError
  /-- The `stdin` goroutine. -/
  input : InputPc
  /-- The output loop. -/
  output : OutputPc
  deriving DecidableEq, Repr

/-- One thing that happens in a session, with what the environment answered. -/
inductive ExecEvent where
  /-- The context is cancelled, or its deadline passes, with this error. -/
  | cancel (err : GoError)
  /-- The goroutine's `select`, finding `ctx.Done()` closed or not. -/
  | inputCheck (cancelled : Bool)
  /-- `in.Read(msg)`: the number of bytes read, or `none` for an error. -/
  | read (n : Option Nat)
  /-- `c.WriteMessage(websocket.BinaryMessage, msg[:n])`, succeeding or not. -/
  | write (ok : Bool)
  /-- The output loop's `select`, finding `ctx.Done()` closed or not. -/
  | outputCheck (cancelled : Bool)
  /-- `c.NextReader()`: a frame, or an error. -/
  | nextReader (ok : Bool)
  /-- `io.Copy(out, cr)`, succeeding or not. -/
  | copy (ok : Bool)
  deriving DecidableEq, Repr

/-- Whether an event is a `Read` of the goroutine. -/
def ExecEvent.isRead : ExecEvent → Bool
  | .read _ => true
  | _ => false

/-- `context.Canceled`. -/
def contextCanceled : GoError := newError "context canceled"

namespace ExecState

/-- The state in which `RunInContainer` starts its loops: a loop runs when its stream is not
`nil`. -/
def start (err : Option GoError) (hasStdin hasStdout : Bool) : ExecState :=
  { err, input := if hasStdin then .check else .done
    output := if hasStdout then .check else .done }

/-- One event of a session; `none` when it cannot happen in `s`. A context is cancelled once. -/
def step (s : ExecState) : ExecEvent → Option ExecState
  | .cancel err => if s.err = none then some { s with err := some err } else none
  | .inputCheck cancelled =>
      if s.input = .check ∧ cancelled = s.err.isSome then
        some { s with input := if cancelled then .done else .read }
      else none
  | .read n =>
      if s.input = .read then
        some { s with input := match n with
                               | none => .done
                               | some n => if 0 < n then .write else .check }
      else none
  | .write ok => if s.input = .write then some { s with input := if ok then .check else .done }
      else none
  | .outputCheck cancelled =>
      if s.output = .check ∧ cancelled = s.err.isSome then some { s with output := .nextReader }
      else none
  | .nextReader ok =>
      if s.output = .nextReader then some { s with output := if ok then .copy else .done }
      else none
  | .copy ok => if s.output = .copy then some { s with output := if ok then .check else .done }
      else none

/-- The state after the events, each from the state the one before it left; `none` when one of
them cannot happen. -/
def run : ExecState → List ExecEvent → Option ExecState
  | s, [] => some s
  | s, event :: events => s.step event >>= fun s => s.run events

/-- What `RunInContainer` returns once its output loop is over: `ctx.Err()`. -/
def result (s : ExecState) : Option (Except GoError Unit) :=
  if s.output = .done then
    some (match s.err with
      | none => .ok ()
      | some err => .error err)
  else none

theorem run_append (s : ExecState) (pre post : List ExecEvent) :
    s.run (pre ++ post) = s.run pre >>= fun s => s.run post := by
  induction pre generalizing s with
  | nil => rfl
  | cons event pre induction =>
      simp only [List.cons_append, run]
      cases s.step event with
      | none => rfl
      | some s => exact induction s

/-! ## The `stdin` goroutine -/

theorem step_of_input_done {s s' : ExecState} {event : ExecEvent} (done : s.input = .done)
    (stepped : s.step event = some s') : s'.input = .done ∧ ∀ n, event ≠ .read n := by
  cases event <;> simp only [step, done, reduceCtorEq, false_and, if_false] at stepped <;>
    split_ifs at stepped <;> cases stepped <;> simp [done]

theorem run_of_input_done {events : List ExecEvent} :
    ∀ {s s' : ExecState}, s.input = .done → s.run events = some s' → ∀ n, .read n ∉ events := by
  induction events with
  | nil => simp
  | cons event events induction =>
      intro s s' done ran n
      obtain ⟨next, stepped, rest⟩ := Option.bind_eq_some.mp ran
      obtain ⟨stillDone, notRead⟩ := step_of_input_done done stepped
      simpa [eq_comm, notRead n] using induction stillDone rest n

theorem input_done_of_inputCheck {s s' : ExecState}
    (stepped : s.step (.inputCheck true) = some s') : s'.input = .done := by
  simp only [step] at stepped
  split_ifs at stepped
  cases stepped
  rfl

/-- The goroutine starts no `Read` once a check of it found the context cancelled. -/
theorem run_no_read_after_inputCheck {s s' : ExecState} {pre post : List ExecEvent}
    (ran : s.run (pre ++ .inputCheck true :: post) = some s') : ∀ n, .read n ∉ post := by
  rw [run_append] at ran
  obtain ⟨checking, -, rest⟩ := Option.bind_eq_some.mp ran
  obtain ⟨checked, stepped, rest⟩ := Option.bind_eq_some.mp rest
  exact run_of_input_done (input_done_of_inputCheck stepped) rest

/-- The `Read`s the goroutine can still start once the context is cancelled: the one it is about to
start, if any. -/
def readsLeft (s : ExecState) : Nat := if s.input = .read then 1 else 0

theorem step_of_cancelled {s s' : ExecState} {event : ExecEvent} (cancelled : s.err.isSome)
    (stepped : s.step event = some s') :
    s'.err.isSome ∧ s'.readsLeft + (if event.isRead then 1 else 0) ≤ s.readsLeft := by
  cases event with
  | read n =>
      simp only [step] at stepped
      split_ifs at stepped with reading
      cases stepped
      rcases n with _ | n
      · simp [readsLeft, ExecEvent.isRead, reading, cancelled]
      · by_cases positive : 0 < n <;>
          simp [readsLeft, ExecEvent.isRead, reading, positive, cancelled]
  | _ =>
      simp only [step] at stepped
      split_ifs at stepped <;> cases stepped <;> simp_all [readsLeft, ExecEvent.isRead]

/-- Once the context is cancelled, the goroutine starts at most one more `Read`: the one it is
about to start when the cancellation comes. -/
theorem run_reads_after_cancel {events : List ExecEvent} :
    ∀ {s s' : ExecState}, s.err.isSome → s.run events = some s' →
      events.countP ExecEvent.isRead ≤ s.readsLeft := by
  induction events with
  | nil => intro s s' _ _; simp
  | cons event events induction =>
      intro s s' cancelled ran
      obtain ⟨next, stepped, rest⟩ := Option.bind_eq_some.mp ran
      obtain ⟨still, budget⟩ := step_of_cancelled cancelled stepped
      have later := induction still rest
      rw [List.countP_cons]
      omega

/-- A goroutine about to read when the context is cancelled reads once, sends what it read, and
returns at its next check. -/
theorem cancelledReader_reads_once :
    (ExecState.mk (some contextCanceled) .read .check).err.isSome ∧
      (ExecState.mk (some contextCanceled) .read .check).run
          [.read (some 3), .write true, .inputCheck true] =
        some ⟨some contextCanceled, .done, .check⟩ ∧
      [ExecEvent.read (some 3), .write true, .inputCheck true].countP ExecEvent.isRead ≤
        (ExecState.mk (some contextCanceled) .read .check).readsLeft :=
  ⟨rfl, rfl, run_reads_after_cancel rfl rfl⟩

/-! ## The output loop -/

theorem output_of_outputCheck {s s' : ExecState}
    (stepped : s.step (.outputCheck true) = some s') : s'.output = .nextReader := by
  simp only [step] at stepped
  split_ifs at stepped
  cases stepped
  rfl

theorem exit_of_step {s s' : ExecState} {event : ExecEvent} (stepped : s.step event = some s')
    (running : s.output ≠ .done) (left : s'.output = .done) :
    event = .nextReader false ∨ event = .copy false := by
  cases event with
  | nextReader ok | copy ok =>
      cases ok
      · simp
      · simp only [step] at stepped
        split_ifs at stepped
        cases stepped
        cases left
  | _ =>
      simp only [step] at stepped
      split_ifs at stepped <;> cases stepped <;> first | exact absurd left running | cases left

/-- One turn of the output loop when the context is cancelled and the connection delivers a
frame that is copied. -/
def cancelledTurn : List ExecEvent := [.outputCheck true, .nextReader true, .copy true]

theorem run_cancelledTurn {s : ExecState} (checking : s.output = .check)
    (cancelled : s.err.isSome) : s.run cancelledTurn = some s := by
  obtain ⟨err, input, output⟩ := s
  cases checking
  simp [cancelledTurn, run, step, cancelled]

/-- At its check with the context cancelled, the output loop takes any number of turns for as long
as frames come, and is back at its check each time. -/
theorem run_cancelledTurns {s : ExecState} (checking : s.output = .check)
    (cancelled : s.err.isSome) (turns : Nat) :
    s.run (List.replicate turns cancelledTurn).flatten = some s := by
  induction turns with
  | zero => rfl
  | succ turns induction =>
      rw [List.replicate_succ, List.flatten_cons, run_append, run_cancelledTurn checking cancelled]
      exact induction

/-- The `stdin` goroutine starts no `Read` after a check that found the context cancelled; the
output loop goes on to `NextReader` after such a check, leaves only when `NextReader` or the copy
fails, and, at its check with the context cancelled, copies every frame the connection delivers. -/
theorem runInContainer_output_ignores_cancel :
    (∀ (s s' : ExecState) pre post, s.run (pre ++ .inputCheck true :: post) = some s' →
      ∀ n, .read n ∉ post) ∧
    (∀ s s' : ExecState, s.step (.outputCheck true) = some s' → s'.output = .nextReader) ∧
    (∀ (s s' : ExecState) event, s.step event = some s' → s.output ≠ .done →
      s'.output = .done → event = .nextReader false ∨ event = .copy false) ∧
    ∀ s : ExecState, s.output = .check → s.err.isSome → ∀ turns,
      s.run (List.replicate turns cancelledTurn).flatten = some s :=
  ⟨fun _ _ _ _ => run_no_read_after_inputCheck, fun _ _ => output_of_outputCheck,
    fun _ _ _ => exit_of_step, fun _ => run_cancelledTurns⟩

/-- A session with both streams whose context is cancelled before the output loop's first check:
the loop reads and copies two frames after seeing the cancellation, and has not returned. -/
example :
    (start none true true).run ([.cancel contextCanceled] ++ cancelledTurn ++ cancelledTurn) =
      some ⟨some contextCanceled, .check, .check⟩ ∧
    (ExecState.mk (some contextCanceled) .check .check).result = none := by
  decide

end ExecState

end AzureAci
