import Kubejob.Builder
import Mathlib.Data.List.Basic
import Mathlib.Logic.Relation

/-!
# Streaming one container's log

`logStreamContainer` opens the container's log stream, sends the command log
line when it is enabled, and starts a reader goroutine; it then waits in a
`select` for the reader's first value on the one-slot `errchan` or for the
context, returns, and closes the stream. The reader loops on
`bufio.Reader.ReadString('\n')`: a line read without error becomes a log event, a
read error is sent on `errchan`, and `io.EOF` sends the finished event and then
`nil` on `errchan`. The loop has no exit.

Every event goes to the unbuffered `containerLogs` channel, which `Run`'s single
consumer drains forever, so a send is one step here: `delivered` lists the events
of this container in the order the consumer receives them.

`ReadString` returns the same segments whatever the chunking of the underlying
reads, so the stream is its remaining bytes. A read after `Close` returns the
close outcome; the model drops the bytes not read by then. The connection can
fail while the stream is open: from then on every read returns that error.

Three things happen from outside the two goroutines: the API fails to open the
stream, the connection fails, and the caller's context ends, which lets the
`select` return. `Step setup true` has them; `Step setup false` is the two
goroutines on their own.
-/

namespace Kubejob

namespace LogStream

/-- How one `ReadString` ends. -/
inductive ReadOutcome where
  | ok
  | eof
  | error (err : GoError)
  deriving DecidableEq, Repr

/-- The line `ReadString` returns, its outcome, and the bytes left. -/
structure ReadResult where
  line : List Char
  outcome : ReadOutcome
  rest : List Char
  deriving DecidableEq, Repr

/-- `ReadString('\n')` on the remaining bytes: up to and including the first
newline, or everything with `io.EOF` when there is none. -/
def readString : List Char → ReadResult
  | [] => ⟨[], .eof, []⟩
  | c :: rest =>
      if c = '\n' then ⟨['\n'], .ok, rest⟩
      else
        let result := readString rest
        { result with line := c :: result.line }

/-- A log read as its newline-terminated segments, each with its
newline. -/
def newlineSegments (content : List Char) : List (List Char) :=
  ((content.splitOn '\n').dropLast).map (· ++ ['\n'])

/-- The fixed inputs of one `logStreamContainer` call. `closedError` is what a
read after `Close` returns: `none` for `io.EOF`. -/
structure Setup where
  pod : Pod
  container : Container
  enabledCommandLog : Bool
  enabledLog : Bool
  closedError : Option GoError

/-- `commandLog`: the container's command and arguments joined with spaces. -/
def commandLog (pod : Pod) (container : Container) : ContainerLog :=
  ⟨pod, container, String.intercalate " " (container.command ++ container.args) ++ "\n", false⟩

/-- The event for a line read without error. -/
def lineLog (setup : Setup) (line : List Char) : ContainerLog :=
  ⟨setup.pod, setup.container, String.mk line, false⟩

/-- The event sent at `io.EOF`. -/
def finishedLog (setup : Setup) : ContainerLog :=
  ⟨setup.pod, setup.container, "", true⟩

/-- Where `logStreamContainer` is. -/
inductive MainPc where
  /-- About to open the stream. -/
  | start
  /-- About to send the command log line. -/
  | sendCommandLog
  /-- About to start the reader. -/
  | spawn
  /-- In the `select`. -/
  | select
  | returned (result : Option GoError)
  deriving DecidableEq, Repr

/-- Where the reader goroutine is. -/
inductive ReaderPc where
  | idle
  /-- About to call `ReadString`. -/
  | read
  /-- Blocked on `errchan <- err`. -/
  | sendErr (err : GoError)
  /-- About to send the event of a line. -/
  | sendLine (line : List Char)
  /-- About to send the finished event. -/
  | sendFinished
  /-- Blocked on `errchan <- nil`. -/
  | sendNil
  deriving DecidableEq, Repr

/-- The two goroutines, the stream, the context, `errchan`'s one slot and the
events delivered so far. -/
structure State where
  main : MainPc
  reader : ReaderPc
  rest : List Char
  closed : Bool
  /-- The error of the failed connection, if it has failed. -/
  broken : Option GoError
  /-- What `ctx.Err()` returns: `none` while the context is live. -/
  ctxErr : Option ContextError
  errchan : Option (Option GoError)
  delivered : List ContainerLog

/-- A call on a stream whose content is `content`. -/
def start (content : List Char) : State :=
  ⟨.start, .idle, content, false, none, none, none, []⟩

/-- What a read returns: the close outcome once the stream is closed, the error
of the connection once it has failed, and otherwise the next segment. -/
def readResult (setup : Setup) (st : State) : ReadResult :=
  if st.closed then
    ⟨[], (setup.closedError.map ReadOutcome.error).getD .eof, []⟩
  else
    match st.broken with
    | some err => ⟨[], .error err, st.rest⟩
    | none => readString st.rest

/-- Where the reader goes after a `ReadString`: to send the line when the
container log is enabled (else straight to the next read), to send the finished
event at `io.EOF`, to send any other error on `errchan`. -/
def afterRead (enabledLog : Bool) (result : ReadResult) : ReaderPc :=
  match result.outcome with
  | .ok => if enabledLog then .sendLine result.line else .read
  | .eof => .sendFinished
  | .error err => .sendErr err

/-- One step of `logStreamContainer` or of its reader, or, when `external`, one
from outside them: the open fails, the connection fails, the context ends and
the `select` takes `ctx.Done()`. -/
inductive Step (setup : Setup) (external : Bool) : State → State → Prop where
  | openFailed {st : State} (allowed : external = true) (err : GoError)
      (at_start : st.main = .start) :
      Step setup external st
        { st with main := .returned (some (.wrap "failed to create log stream" err)) }
  | opened {st : State} (at_start : st.main = .start) :
      Step setup external st
        { st with main := if setup.enabledCommandLog then .sendCommandLog else .spawn }
  | sendCommandLog {st : State} (at_send : st.main = .sendCommandLog) :
      Step setup external st
        { st with main := .spawn,
                  delivered := st.delivered ++ [commandLog setup.pod setup.container] }
  | spawn {st : State} (at_spawn : st.main = .spawn) :
      Step setup external st { st with main := .select, reader := .read }
  | receive {st : State} {value : Option GoError} (at_select : st.main = .select)
      (full : st.errchan = some value) :
      Step setup external st
        { st with main := .returned (value.map (.wrap "failed to log stream")),
                  errchan := none, closed := true }
  | done {st : State} {err : ContextError} (allowed : external = true)
      (at_select : st.main = .select) (ended : st.ctxErr = some err) :
      Step setup external st
        { st with main := .returned (some (.wrap "context error" (.context err))),
                  closed := true }
  | cancel {st : State} (allowed : external = true) (err : ContextError)
      (live : st.ctxErr = none) :
      Step setup external st { st with ctxErr := some err }
  | fail {st : State} (allowed : external = true) (err : GoError) (intact : st.broken = none) :
      Step setup external st { st with broken := some err }
  | read {st : State} (at_read : st.reader = .read) :
      Step setup external st
        { st with reader := afterRead setup.enabledLog (readResult setup st),
                  rest := (readResult setup st).rest }
  | sendErr {st : State} {err : GoError} (at_send : st.reader = .sendErr err)
      (empty : st.errchan = none) :
      Step setup external st { st with reader := .read, errchan := some (some err) }
  | sendLine {st : State} {line : List Char} (at_send : st.reader = .sendLine line) :
      Step setup external st
        { st with reader := .read, delivered := st.delivered ++ [lineLog setup line] }
  | sendFinished {st : State} (at_send : st.reader = .sendFinished) :
      Step setup external st
        { st with reader := .sendNil, delivered := st.delivered ++ [finishedLog setup] }
  | sendNil {st : State} (at_send : st.reader = .sendNil) (empty : st.errchan = none) :
      Step setup external st { st with reader := .read, errchan := some none }

/-- The states some interleaving reaches from the call on `content`. -/
def Reachable (setup : Setup) (content : List Char) (st : State) : Prop :=
  Relation.ReflTransGen (Step setup true) (start content) st

/-- A step of the goroutines on their own is a step of the call. -/
theorem Step.lift {setup : Setup} {st st' : State} (step : Step setup false st st') :
    Step setup true st st' := by
  cases step <;> first | contradiction | constructor <;> assumption

/-- `ReadString` returns the text up to the first newline with `ok`, or all of
the text with `io.EOF` when it holds no newline. -/
theorem readString_cases (content : List Char) :
    ((readString content).outcome = .ok ∧ ∃ head, '\n' ∉ head ∧
        (readString content).line = head ++ ['\n'] ∧
        content = head ++ '\n' :: (readString content).rest) ∨
      ((readString content).outcome = .eof ∧ '\n' ∉ content ∧
        (readString content).line = content ∧ (readString content).rest = []) := by
  induction content with
  | nil => exact .inr ⟨rfl, List.not_mem_nil _, rfl, rfl⟩
  | cons c rest ih =>
      by_cases newline : c = '\n'
      · subst newline
        exact .inl ⟨by simp [readString], [], List.not_mem_nil _, by simp [readString],
          by simp [readString]⟩
      · simp only [readString, newline, if_false]
        rcases ih with ⟨ok, head, fresh, line, split⟩ | ⟨eof, fresh, line, rest⟩
        · refine .inl ⟨ok, c :: head, ?_, by simp [line], by simp [← split]⟩
          simp [fresh, Ne.symm newline]
        · exact .inr ⟨eof, by simp [fresh, Ne.symm newline], by simp [line], rest⟩

theorem newlineSegments_append {head : List Char} (fresh : '\n' ∉ head) (rest : List Char) :
    newlineSegments (head ++ '\n' :: rest) = (head ++ ['\n']) :: newlineSegments rest := by
  have first : (head ++ '\n' :: rest).splitOn '\n' = head :: rest.splitOn '\n' :=
    List.splitOnP_first (· == '\n') head
      (fun c member equal => fresh (by rwa [beq_iff_eq.mp equal] at member)) '\n' (by simp) rest
  have nonempty : rest.splitOn '\n' ≠ [] := List.splitOnP_ne_nil _ _
  rw [newlineSegments, first, List.dropLast_cons_of_ne_nil nonempty]
  rfl

theorem newlineSegments_of_not_mem {content : List Char} (fresh : '\n' ∉ content) :
    newlineSegments content = [] := by
  have single : content.splitOn '\n' = [content] :=
    List.splitOnP_eq_single (· == '\n') content
      fun c member equal => fresh (by rwa [beq_iff_eq.mp equal] at member)
  simp [newlineSegments, single]

/-- Every complete line of a log ends with its only newline. -/
theorem mem_newlineSegments {content line : List Char} (member : line ∈ newlineSegments content) :
    ∃ head, '\n' ∉ head ∧ line = head ++ ['\n'] := by
  obtain ⟨n, length⟩ : ∃ n, content.length = n := ⟨_, rfl⟩
  induction n using Nat.strong_induction_on generalizing content with
  | _ n ih =>
  rcases readString_cases content with ⟨-, head, fresh, -, split⟩ | ⟨-, fresh, -, -⟩
  · generalize (readString content).rest = rest at split
    subst split
    rw [newlineSegments_append fresh] at member
    rcases List.mem_cons.mp member with rfl | later
    · exact ⟨head, fresh, rfl⟩
    · exact ih rest.length (by simp only [List.length_append, List.length_cons] at length; omega)
        later rfl
  · simp [newlineSegments_of_not_mem fresh] at member

/-- A read returns either a complete line of the open stream, or no line: at
`io.EOF`, which leaves nothing to read, or with an error, which leaves the bytes
there or drops them. -/
theorem readResult_cases (setup : Setup) (st : State) :
    ((readResult setup st).outcome = .ok ∧ ∃ head, '\n' ∉ head ∧
        (readResult setup st).line = head ++ ['\n'] ∧
        st.rest = head ++ '\n' :: (readResult setup st).rest) ∨
      ((readResult setup st).outcome ≠ .ok ∧
        ((readResult setup st).rest = [] ∨ (readResult setup st).rest = st.rest) ∧
        ((readResult setup st).outcome = .eof → (readResult setup st).rest = [])) := by
  unfold readResult
  split
  · right
    cases setup.closedError <;> simp
  · split
    · exact .inr ⟨by simp, .inr rfl, by simp⟩
    · rcases readString_cases st.rest with ok | ⟨eof, -, -, rest⟩
      · exact .inl ok
      · exact .inr ⟨by simp [eof], .inl rest, fun _ => rest⟩

@[simp] theorem newlineSegments_nil : newlineSegments [] = [] := rfl

/-- The lines a reader about to send holds. -/
def ReaderPc.pending : ReaderPc → List (List Char)
  | .sendLine line => [line]
  | _ => []

@[simp] theorem ReaderPc.pending_sendLine (line : List Char) :
    (ReaderPc.sendLine line).pending = [line] := rfl

@[simp] theorem ReaderPc.pending_of_ne {reader : ReaderPc}
    (not_line : ∀ line, reader ≠ .sendLine line) : reader.pending = [] := by
  cases reader <;> simp_all [ReaderPc.pending]

theorem afterRead_ne_idle {enabledLog : Bool} {result : ReadResult} :
    afterRead enabledLog result ≠ .idle := by
  unfold afterRead
  split <;> [split; skip; skip] <;> simp

theorem afterRead_of_ok {enabledLog : Bool} {result : ReadResult} (ok : result.outcome = .ok) :
    afterRead enabledLog result = if enabledLog then .sendLine result.line else .read := by
  simp [afterRead, ok]

theorem afterRead_of_ne_ok {enabledLog : Bool} {result : ReadResult}
    (not_ok : result.outcome ≠ .ok) :
    (afterRead enabledLog result).pending = [] := by
  unfold afterRead
  split <;> simp_all

theorem outcome_of_afterRead_sendFinished {enabledLog : Bool} {result : ReadResult}
    (finishing : afterRead enabledLog result = .sendFinished) : result.outcome = .eof := by
  unfold afterRead at finishing
  split at finishing
  · split at finishing <;> cases finishing
  · assumption
  · cases finishing

/-- Where the reader can be while `logStreamContainer` is at each point. -/
def Control (setup : Setup) : MainPc → ReaderPc → Prop
  | .start, reader | .spawn, reader => reader = .idle
  | .sendCommandLog, reader => reader = .idle ∧ setup.enabledCommandLog = true
  | .select, reader => reader ≠ .idle
  | .returned _, _ => True

theorem Control.of_active {setup : Setup} {main : MainPc} {reader reader' : ReaderPc}
    (control : Control setup main reader) (active : reader ≠ .idle)
    (active' : reader' ≠ .idle) :
    Control setup main reader' := by
  cases main <;> simp_all [Control]

/-- The command log line, when it is enabled. -/
def commandLogs (setup : Setup) : List ContainerLog :=
  if setup.enabledCommandLog then [commandLog setup.pod setup.container] else []

/-- The command log line, once `logStreamContainer` has sent it: it has when it
is about to start the reader, or once the reader runs. -/
def commandPart (setup : Setup) (st : State) : List ContainerLog :=
  if st.reader ≠ .idle ∨ st.main = .spawn then commandLogs setup else []

theorem mem_commandPart {setup : Setup} {st : State} {log : ContainerLog}
    (member : log ∈ commandPart setup st) : log = commandLog setup.pod setup.container := by
  unfold commandPart commandLogs at member
  split_ifs at member <;> simp_all

theorem commandPart_of_active {setup : Setup} {st : State} (active : st.reader ≠ .idle) :
    commandPart setup st = commandLogs setup := by
  simp [commandPart, active]

/-- The shape of a reachable state, given the lines sent so far and the number of
finished events. -/
structure Shape (setup : Setup) (content : List Char) (st : State)
    (lines : List (List Char)) (finished : Nat) : Prop where
  delivered_eq : st.delivered = commandPart setup st ++ lines.map (lineLog setup) ++
    List.replicate finished (finishedLog setup)
  control : Control setup st.main st.reader
  idle : st.reader = .idle → lines = [] ∧ finished = 0 ∧ st.rest = content
  segments : setup.enabledLog = true →
    lines ++ st.reader.pending ++ newlineSegments st.rest <+: newlineSegments content
  disabled : setup.enabledLog = false → lines = [] ∧ st.reader.pending = []
  at_finished : st.reader = .sendFinished → st.rest = []
  after_finished : 0 < finished → st.rest = [] ∧ st.reader.pending = []

/-- What every reachable state satisfies. -/
def Invariant (setup : Setup) (content : List Char) (st : State) : Prop :=
  ∃ lines finished, Shape setup content st lines finished

theorem invariant_start (setup : Setup) (content : List Char) :
    Invariant setup content (start content) :=
  ⟨[], 0, by constructor <;> simp [start, commandPart, Control]⟩

section Steps

variable {setup : Setup} {content : List Char} {st : State} {lines : List (List Char)}
  {finished : Nat}

/-- The reader resuming its loop after a send on `errchan` keeps the shape. -/
theorem Shape.resume (shape : Shape setup content st lines finished)
    (sending : st.reader ≠ .idle) (nothing_pending : st.reader.pending = [])
    (value : Option (Option GoError)) :
    Shape setup content { st with reader := .read, errchan := value } lines finished where
  delivered_eq := by
    simp [shape.delivered_eq, commandPart_of_active sending, commandPart_of_active]
  control := shape.control.of_active sending (by simp)
  idle := by simp
  segments enabled := by simpa [nothing_pending] using shape.segments enabled
  disabled disabled := by simpa [nothing_pending] using shape.disabled disabled
  at_finished := by simp
  after_finished positive := by
    simpa [nothing_pending] using shape.after_finished positive

/-- `logStreamContainer` returning, by `errchan` or by the context, keeps the shape. -/
theorem Shape.return (shape : Shape setup content st lines finished)
    (at_select : st.main = .select) (result : Option GoError)
    (value : Option (Option GoError)) :
    Shape setup content { st with main := .returned result, errchan := value, closed := true }
      lines finished := by
  have active : st.reader ≠ .idle := by simpa [at_select, Control] using shape.control
  exact { shape with
    delivered_eq := by
      simp [shape.delivered_eq, commandPart_of_active active, commandPart_of_active, active]
    control := trivial }

/-- A `ReadString` keeps the shape: a complete line becomes pending, and the end
of the bytes leaves nothing to read. -/
theorem Shape.read (shape : Shape setup content st lines finished)
    (at_read : st.reader = .read) :
    Shape setup content { st with reader := afterRead setup.enabledLog (readResult setup st),
                                  rest := (readResult setup st).rest } lines finished := by
  have active : st.reader ≠ .idle := by simp [at_read]
  have pending : st.reader.pending = [] := by simp [at_read]
  refine ⟨by simp [shape.delivered_eq, commandPart_of_active active, commandPart_of_active,
      afterRead_ne_idle], shape.control.of_active active afterRead_ne_idle,
    fun idle => absurd idle afterRead_ne_idle, ?_, ?_, ?_, ?_⟩
  all_goals
    rcases readResult_cases setup st with ⟨ok, head, fresh, line, split⟩ |
      ⟨not_ok, kept, eof_rest⟩
  · intro enabled
    have segments := shape.segments enabled
    rw [pending, split, newlineSegments_append fresh] at segments
    simpa [afterRead_of_ok ok, enabled, line] using segments
  · intro enabled
    rcases kept with rest | rest
    · simpa [afterRead_of_ne_ok not_ok, rest] using
        (List.prefix_append lines _).trans (by simpa [pending] using shape.segments enabled)
    · simpa [afterRead_of_ne_ok not_ok, rest, pending] using shape.segments enabled
  · intro disabled
    simpa [afterRead_of_ok ok, disabled] using (shape.disabled disabled).1
  · intro disabled
    simpa [afterRead_of_ne_ok not_ok] using (shape.disabled disabled).1
  · intro at_finished
    simp [afterRead_of_ok ok] at at_finished
    split at at_finished <;> simp at at_finished
  · exact fun finishing => eof_rest (outcome_of_afterRead_sendFinished finishing)
  · intro positive
    simp [(shape.after_finished positive).1] at split
  · intro positive
    have rest := (shape.after_finished positive).1
    exact ⟨by rcases kept with kept | kept <;> simp [kept, rest], afterRead_of_ne_ok not_ok⟩

theorem invariant_step {external : Bool} {st' : State} (step : Step setup external st st')
    (invariant : Invariant setup content st) : Invariant setup content st' := by
  obtain ⟨lines, finished, shape⟩ := invariant
  cases step with
  | openFailed _ err at_start =>
      have idle : st.reader = .idle := by simpa [at_start, Control] using shape.control
      exact ⟨lines, finished, { shape with
        delivered_eq := by simp [shape.delivered_eq, commandPart, commandLogs, idle, at_start]
        control := trivial }⟩
  | opened at_start =>
      have idle : st.reader = .idle := by simpa [at_start, Control] using shape.control
      exact ⟨lines, finished, { shape with
        delivered_eq := by split <;> simp_all [shape.delivered_eq, commandPart, commandLogs]
        control := by split <;> simp_all [Control] }⟩
  | sendCommandLog at_send =>
      obtain ⟨idle, enabled⟩ : st.reader = .idle ∧ setup.enabledCommandLog = true := by
        simpa [at_send, Control] using shape.control
      obtain ⟨rfl, rfl, -⟩ := shape.idle idle
      exact ⟨[], 0, { shape with
        delivered_eq := by
          simp [shape.delivered_eq, commandPart, commandLogs, idle, at_send, enabled]
        control := idle }⟩
  | spawn at_spawn =>
      have idle : st.reader = .idle := by simpa [at_spawn, Control] using shape.control
      obtain ⟨rfl, rfl, rest⟩ := shape.idle idle
      exact ⟨[], 0, by
        constructor <;> simp [shape.delivered_eq, commandPart, idle, at_spawn, Control, rest]⟩
  | receive at_select _ => exact ⟨lines, finished, shape.return at_select _ none⟩
  | done _ at_select _ => exact ⟨lines, finished, shape.return at_select _ st.errchan⟩
  | cancel | fail => exact ⟨lines, finished, { shape with }⟩
  | read at_read => exact ⟨lines, finished, shape.read at_read⟩
  | sendErr at_send _ =>
      exact ⟨lines, finished, shape.resume (by simp [at_send]) (by simp [at_send]) _⟩
  | sendNil at_send _ =>
      exact ⟨lines, finished, shape.resume (by simp [at_send]) (by simp [at_send]) _⟩
  | @sendLine line at_send =>
      have finished_zero : finished = 0 := by
        by_contra positive
        simpa [at_send] using (shape.after_finished (by omega)).2
      have enabled : setup.enabledLog = true := by
        by_contra disabled
        simpa [at_send] using (shape.disabled (by simpa using disabled)).2
      subst finished_zero
      refine ⟨lines ++ [line], 0, ?_, shape.control.of_active (by simp [at_send]) (by simp),
        by simp, ?_, by simp [enabled], by simp, by simp⟩
      · simp [shape.delivered_eq, commandPart_of_active, at_send]
      · exact fun _ => by simpa [at_send] using shape.segments enabled
  | sendFinished at_send =>
      have rest := shape.at_finished at_send
      refine ⟨lines, finished + 1, ?_, shape.control.of_active (by simp [at_send]) (by simp),
        by simp, ?_, ?_, by simp, by simp [rest]⟩
      · simp [shape.delivered_eq, commandPart_of_active, at_send, List.replicate_succ']
      · simpa [at_send] using shape.segments
      · simpa [at_send] using shape.disabled

theorem invariant_of_reachable {st : State} (reachable : Reachable setup content st) :
    Invariant setup content st := by
  induction reachable with
  | refl => exact invariant_start setup content
  | tail _ step invariant => exact invariant_step step invariant

end Steps

/-- Every reachable state has delivered the command log line (once the reader
runs, when it is enabled), then complete lines of the log in order, then finished
events. The text after the last newline is never delivered. -/
theorem delivered_shape {setup : Setup} {content : List Char} {st : State}
    (reachable : Reachable setup content st) :
    ∃ lines finished,
      st.delivered = commandPart setup st ++ lines.map (lineLog setup) ++
        List.replicate finished (finishedLog setup) ∧
      lines <+: newlineSegments content := by
  obtain ⟨lines, finished, shape⟩ := invariant_of_reachable reachable
  refine ⟨lines, finished, shape.delivered_eq, ?_⟩
  cases enabled : setup.enabledLog
  · simp [(shape.disabled enabled).1]
  · exact (List.prefix_append lines _).trans
      ((List.prefix_append _ _).trans (shape.segments enabled))

/-- What a call has delivered: its command log line, at most once and only when
enabled, then the first complete lines of its log in order, none when the log is
disabled, then finished events. -/
theorem delivered_in_order {setup : Setup} {content : List Char} {st : State}
    (reachable : Reachable setup content st) :
    ∃ command lines finished, command <+: commandLogs setup ∧
      lines <+: (if setup.enabledLog then newlineSegments content else []) ∧
      st.delivered =
        command ++ lines.map (lineLog setup) ++ List.replicate finished (finishedLog setup) := by
  obtain ⟨lines, finished, shape⟩ := invariant_of_reachable reachable
  refine ⟨commandPart setup st, lines, finished, ?_, ?_, shape.delivered_eq⟩
  · unfold commandPart
    split <;> simp
  · cases enabled : setup.enabledLog
    · simp [(shape.disabled enabled).1]
    · simpa [enabled] using (List.prefix_append lines _).trans
        ((List.prefix_append _ _).trans (shape.segments enabled))

/-- The stream is closed only when `logStreamContainer` returns, and always
when it returns `nil`; `errchan` stays empty until the reader starts. -/
structure Lifecycle (st : State) : Prop where
  closed_returned : st.closed = true → ∃ result, st.main = .returned result
  returned_nil_closed : st.main = .returned none → st.closed = true
  idle_empty : st.reader = .idle → st.errchan = none

theorem Lifecycle.opened {st : State} (life : Lifecycle st)
    (running : ∀ result, st.main ≠ .returned result) : st.closed = false := by
  cases closed : st.closed
  · rfl
  · obtain ⟨result, returned⟩ := life.closed_returned closed
    exact absurd returned (running result)

theorem lifecycle_step {setup : Setup} {external : Bool} {st st' : State}
    (step : Step setup external st st') (life : Lifecycle st) : Lifecycle st' := by
  cases step with
  | openFailed =>
      exact { life with closed_returned := fun _ => ⟨_, rfl⟩
                        returned_nil_closed := fun same => by cases same }
  | opened at_start =>
      have opened := life.opened (by simp [at_start])
      exact { life with closed_returned := fun closed => by simp [opened] at closed
                        returned_nil_closed := fun same => by split at same <;> cases same }
  | sendCommandLog at_send =>
      have opened := life.opened (by simp [at_send])
      exact { life with closed_returned := fun closed => by simp [opened] at closed
                        returned_nil_closed := fun same => by cases same }
  | spawn at_spawn =>
      have opened := life.opened (by simp [at_spawn])
      exact ⟨fun closed => (by simp [opened] at closed), fun same => (by cases same),
        fun same => (by cases same)⟩
  | receive => exact ⟨fun _ => ⟨_, rfl⟩, fun _ => rfl, fun _ => rfl⟩
  | done => exact ⟨fun _ => ⟨_, rfl⟩, fun _ => rfl, life.idle_empty⟩
  | cancel | fail => exact { life with }
  | read => exact { life with idle_empty := fun idle => absurd idle afterRead_ne_idle }
  | sendErr | sendLine | sendFinished | sendNil =>
      exact { life with idle_empty := fun same => by cases same }

theorem lifecycle_of_reachable {setup : Setup} {content : List Char} {st : State}
    (reachable : Reachable setup content st) : Lifecycle st := by
  induction reachable with
  | refl => exact ⟨fun closed => (by cases closed), fun same => (by cases same), fun _ => rfl⟩
  | tail _ step life => exact lifecycle_step step life

/-- The whole log is delivered: the command log line when it is enabled, every
complete line in order when the log is enabled, then finished events, at least
one. -/
def Complete (setup : Setup) (content : List Char) (delivered : List ContainerLog) : Prop :=
  ∃ finished, 0 < finished ∧
    delivered = commandLogs setup ++
      (if setup.enabledLog then newlineSegments content else []).map (lineLog setup) ++
      List.replicate finished (finishedLog setup)

theorem Complete.finish {setup : Setup} {content : List Char} {delivered : List ContainerLog}
    (complete : Complete setup content delivered) :
    Complete setup content (delivered ++ [finishedLog setup]) := by
  obtain ⟨finished, _, rfl⟩ := complete
  exact ⟨finished + 1, by omega, by simp [List.replicate_succ']⟩

/-- The log is the consumed lines joined, then the bytes not read yet or, once
the reader has met `io.EOF`, a final text without a newline. -/
def Rebuilds (content rest : List Char) (consumed : List (List Char)) : Prop :=
  ∃ unread, content = consumed.flatten ++ unread ∧ (unread = rest ∨ rest = [] ∧ '\n' ∉ unread)

/-- How far the reader has got. While the stream is open, the lines delivered or
about to be are the complete lines before the bytes left, and with those bytes
they make up the log. Once the reader has met `io.EOF` on the open stream, and
once `logStreamContainer` has returned `nil`, the whole log is delivered and
nothing is left to read. -/
structure Progress (setup : Setup) (content : List Char) (st : State) : Prop where
  reading : st.closed = false → st.reader ≠ .idle → ∃ consumed finished,
    newlineSegments content = consumed ++ newlineSegments st.rest ∧
    st.delivered ++ st.reader.pending.map (lineLog setup) =
      commandLogs setup ++ (if setup.enabledLog then consumed else []).map (lineLog setup) ++
        List.replicate finished (finishedLog setup) ∧
    (0 < finished → st.rest = []) ∧ Rebuilds content st.rest consumed
  drained : st.closed = false → (st.reader = .sendNil ∨ st.errchan = some none) →
    st.rest = [] ∧ st.reader.pending = [] ∧ Complete setup content st.delivered
  returned_nil : st.main = .returned none →
    st.rest = [] ∧ st.reader.pending = [] ∧ Complete setup content st.delivered

section Progress

variable {setup : Setup} {content : List Char} {st : State}

/-- A read of the open stream keeps the progress: a complete line joins the
consumed ones, `io.EOF` leaves no complete line unread, and a failed read
consumes nothing. -/
theorem Progress.read_opened (progress : Progress setup content st) (closed : st.closed = false)
    (at_read : st.reader = .read) :
    ∃ consumed finished,
      newlineSegments content = consumed ++ newlineSegments (readResult setup st).rest ∧
      st.delivered ++ (afterRead setup.enabledLog (readResult setup st)).pending.map
          (lineLog setup) =
        commandLogs setup ++ (if setup.enabledLog then consumed else []).map (lineLog setup) ++
          List.replicate finished (finishedLog setup) ∧
      (0 < finished → (readResult setup st).rest = []) ∧
      Rebuilds content (readResult setup st).rest consumed := by
  obtain ⟨consumed, finished, segments, delivered, drained, unread, whole, unreadIs⟩ :=
    progress.reading closed (by simp [at_read])
  simp only [at_read, ReaderPc.pending, List.map_nil, List.append_nil] at delivered
  cases broken : st.broken with
  | some err =>
      have failed : readResult setup st = ⟨[], .error err, st.rest⟩ := by
        simp [readResult, closed, broken]
      rw [failed]
      exact ⟨consumed, finished, segments, by simpa [afterRead] using delivered, drained, unread,
        whole, unreadIs⟩
  | none =>
      have opened : readResult setup st = readString st.rest := by
        simp [readResult, closed, broken]
      rw [opened]
      rcases readString_cases st.rest with ⟨ok, head, fresh, line, split⟩ | ⟨eof, fresh, -, rest⟩
      · have none_finished : finished = 0 := by
          by_contra positive
          simp [drained (by omega)] at split
        subst none_finished
        have unreadRest : unread = st.rest := unreadIs.resolve_right fun ⟨empty, _⟩ => by
          simp [empty, readString] at ok
        rw [split, newlineSegments_append fresh] at segments
        refine ⟨consumed ++ [(readString st.rest).line], 0, by simp [segments, line], ?_,
          fun positive => absurd positive (by omega), _, ?_, .inl rfl⟩
        · cases enabled : setup.enabledLog <;> simp [afterRead_of_ok ok, enabled, delivered] at *
        · rw [whole, unreadRest, line]
          nth_rewrite 1 [split]
          simp
      · have pending : (afterRead setup.enabledLog (readString st.rest)).pending = [] :=
          afterRead_of_ne_ok (by simp [eof])
        refine ⟨consumed, finished, by rw [rest, segments, newlineSegments_of_not_mem fresh]; rfl,
          by simpa [pending] using delivered, fun _ => rest, unread, whole, .inr ⟨rest, ?_⟩⟩
        rcases unreadIs with rfl | ⟨-, newlineFree⟩
        exacts [fresh, newlineFree]

/-- A read keeps the progress; after `Close` it gives no line. -/
theorem Progress.read (progress : Progress setup content st) (life : Lifecycle st)
    (at_read : st.reader = .read) :
    Progress setup content { st with reader := afterRead setup.enabledLog (readResult setup st),
                                     rest := (readResult setup st).rest } := by
  cases closed : st.closed
  · refine ⟨fun _ _ => progress.read_opened closed at_read, fun _ waiting => ?_,
      fun returned => absurd (life.returned_nil_closed returned) (by simp [closed])⟩
    have waiting : st.errchan = some none := by
      refine waiting.resolve_left fun nil => ?_
      revert nil
      unfold afterRead
      split <;> [split; skip; skip] <;> simp
    obtain ⟨rest, -, complete⟩ := progress.drained closed (.inr waiting)
    rcases readResult_cases setup st with ⟨-, head, -, -, split⟩ | ⟨not_ok, kept, -⟩
    · simp [rest] at split
    · exact ⟨by rcases kept with kept | kept <;> simp [kept, rest], afterRead_of_ne_ok not_ok,
        complete⟩
  · refine ⟨fun opened => by simp [closed] at opened, fun opened => by simp [closed] at opened,
      fun returned => ?_⟩
    obtain ⟨-, -, complete⟩ := progress.returned_nil returned
    have ended : (readResult setup st).outcome ≠ .ok ∧ (readResult setup st).rest = [] := by
      simp only [readResult, closed, if_true]
      cases setup.closedError <;> simp
    exact ⟨ended.2, afterRead_of_ne_ok ended.1, complete⟩

theorem progress_step {external : Bool} {st' : State} (step : Step setup external st st')
    (invariant : Invariant setup content st) (life : Lifecycle st)
    (progress : Progress setup content st) : Progress setup content st' := by
  obtain ⟨lines, finished, shape⟩ := invariant
  cases step with
  | openFailed => exact { progress with returned_nil := fun same => by cases same }
  | opened at_start =>
      exact { progress with returned_nil := fun same => by split at same <;> cases same }
  | sendCommandLog at_send =>
      obtain ⟨idle, -⟩ : st.reader = .idle ∧ setup.enabledCommandLog = true := by
        simpa [at_send, Control] using shape.control
      exact ⟨fun _ active => absurd idle active,
        fun _ waiting => (by simp [idle, life.idle_empty idle] at waiting),
        fun same => (by cases same)⟩
  | spawn at_spawn =>
      have idle : st.reader = .idle := by simpa [at_spawn, Control] using shape.control
      obtain ⟨rfl, rfl, rest⟩ := shape.idle idle
      refine ⟨fun _ _ => ⟨[], 0, by simp [rest], ?_, by simp, _, by simp, .inl rest.symm⟩,
        fun _ waiting => (by simp [life.idle_empty idle] at waiting), fun same => (by cases same)⟩
      simpa [commandPart, at_spawn] using shape.delivered_eq
  | @receive value at_select full =>
      refine ⟨fun opened => (by cases opened), fun opened => (by cases opened), fun same => ?_⟩
      cases value with
      | none => exact progress.drained (life.opened (by simp [at_select])) (.inr full)
      | some => cases same
  | done => exact ⟨fun opened => (by cases opened), fun opened => (by cases opened),
      fun same => (by cases same)⟩
  | cancel | fail => exact { progress with }
  | read at_read => exact progress.read life at_read
  | sendErr at_send =>
      refine ⟨fun opened _ => ?_, fun _ waiting => by simp at waiting, fun returned => ?_⟩
      · obtain ⟨consumed, finished, segments, delivered, rest⟩ :=
          progress.reading opened (by simp [at_send])
        exact ⟨consumed, finished, segments, by simpa [at_send] using delivered, rest⟩
      · obtain ⟨rest, -, complete⟩ := progress.returned_nil returned
        exact ⟨rest, rfl, complete⟩
  | sendLine at_send =>
      refine ⟨fun opened _ => ?_, fun opened waiting => ?_, fun returned => ?_⟩
      · obtain ⟨consumed, finished, segments, delivered, rest⟩ :=
          progress.reading opened (by simp [at_send])
        exact ⟨consumed, finished, segments, by simpa [at_send] using delivered, rest⟩
      · have waiting : st.errchan = some none := by simpa using waiting
        simpa [at_send] using (progress.drained opened (.inr waiting)).2.1
      · simpa [at_send] using (progress.returned_nil returned).2.1
  | sendFinished at_send =>
      have rest := shape.at_finished at_send
      refine ⟨fun opened _ => ?_, fun opened _ => ?_, fun returned => ?_⟩
      · obtain ⟨consumed, finished, segments, delivered, -, rebuilds⟩ :=
          progress.reading opened (by simp [at_send])
        refine ⟨consumed, finished + 1, segments, ?_, fun _ => rest, rebuilds⟩
        simp only [at_send, ReaderPc.pending, List.map_nil, List.append_nil] at delivered
        simp [delivered, List.replicate_succ']
      · obtain ⟨consumed, finished, segments, delivered, -⟩ :=
          progress.reading opened (by simp [at_send])
        simp only [at_send, ReaderPc.pending, List.map_nil, List.append_nil] at delivered
        rw [rest, newlineSegments_nil, List.append_nil] at segments
        exact ⟨rest, rfl, finished + 1, by omega, by
          simp [delivered, segments, List.replicate_succ']⟩
      · obtain ⟨rest, -, complete⟩ := progress.returned_nil returned
        exact ⟨rest, rfl, complete.finish⟩
  | sendNil at_send =>
      refine ⟨fun opened _ => ?_, fun opened _ => ?_, fun returned => ?_⟩
      · obtain ⟨consumed, finished, segments, delivered, rest⟩ :=
          progress.reading opened (by simp [at_send])
        rw [at_send] at delivered
        exact ⟨consumed, finished, segments, delivered, rest⟩
      · obtain ⟨rest, -, complete⟩ := progress.drained opened (.inl at_send)
        exact ⟨rest, rfl, complete⟩
      · obtain ⟨rest, -, complete⟩ := progress.returned_nil returned
        exact ⟨rest, rfl, complete⟩

theorem progress_of_reachable (reachable : Reachable setup content st) :
    Progress setup content st := by
  induction reachable with
  | refl =>
      exact ⟨fun _ idle => absurd rfl idle, fun _ waiting => (by simp [start] at waiting),
        fun same => (by cases same)⟩
  | tail before step progress =>
      exact progress_step step (invariant_of_reachable before) (lifecycle_of_reachable before)
        progress

end Progress

/-- Once `logStreamContainer` has returned `nil`, in every interleaving, the
consumer has the command log line when it is enabled, then every complete line
of the log in order when the log is enabled; every event after them, then and
later, is a finished event, and there is at least one. -/
theorem returned_nil_delivers_whole_log {setup : Setup} {content : List Char} {st : State}
    (reachable : Reachable setup content st) (returned : st.main = .returned none) :
    ∃ finished, 0 < finished ∧
      st.delivered = commandLogs setup ++
        (if setup.enabledLog then newlineSegments content else []).map (lineLog setup) ++
        List.replicate finished (finishedLog setup) :=
  ((progress_of_reachable reachable).returned_nil returned).2.2

/-- A step only adds events at the end of what is delivered. -/
theorem Step.delivered_append {setup : Setup} {external : Bool} {st st' : State}
    (step : Step setup external st st') :
    ∃ sent, st'.delivered = st.delivered ++ sent := by
  cases step <;> first | exact ⟨_, rfl⟩ | exact ⟨[], (List.append_nil _).symm⟩

/-- Once `logStreamContainer` has returned, it stays returned with the same
result. -/
theorem Step.main_of_returned {setup : Setup} {external : Bool} {st st' : State}
    (step : Step setup external st st')
    {result : Option GoError} (returned : st.main = .returned result) :
    st'.main = .returned result := by
  cases step <;> simp_all

/-- The errors `logStreamContainer` returns: the stream could not be opened, the
reader sent an error, or the context ended, with `ctx.Err()`. -/
def CallError (err : GoError) : Prop :=
  (∃ cause, err = .wrap "failed to create log stream" cause) ∨
    (∃ cause, err = .wrap "failed to log stream" cause) ∨
    ∃ cause, err = .wrap "context error" (.context cause)

theorem callError_of_reachable {setup : Setup} {content : List Char} {st : State}
    (reachable : Reachable setup content st) {err : GoError}
    (returned : st.main = .returned (some err)) : CallError err := by
  induction reachable generalizing err with
  | refl => cases returned
  | tail _ step ih =>
      cases step with
      | openFailed _ cause => cases returned; exact .inl ⟨cause, rfl⟩
      | opened =>
          revert returned
          split <;> intro returned <;> cases returned
      | receive =>
          obtain ⟨cause, -, rfl⟩ := Option.map_eq_some'.mp (MainPc.returned.inj returned)
          exact .inr (.inl ⟨cause, rfl⟩)
      | done => cases returned; exact .inr (.inr ⟨_, rfl⟩)
      | sendCommandLog | spawn => cases returned
      | cancel | fail | read | sendErr | sendLine | sendFinished | sendNil => exact ih returned

/-- After `logStreamContainer` has returned `nil`, its reader delivers only
finished events. -/
theorem Step.sent_finished {setup : Setup} {content : List Char} {st st' : State}
    (reachable : Reachable setup content st) (step : Step setup true st st')
    (returned : st.main = .returned none) {sent : List ContainerLog}
    (appended : st'.delivered = st.delivered ++ sent) : ∀ log ∈ sent, log.isFinished = true := by
  obtain ⟨finished, -, before⟩ := (progress_of_reachable reachable).returned_nil returned |>.2.2
  obtain ⟨finished', -, after⟩ :=
    (progress_of_reachable (reachable.tail step)).returned_nil
      (step.main_of_returned returned) |>.2.2
  rw [appended, before, List.append_assoc] at after
  have tail := List.append_cancel_left after
  intro log member
  have : log ∈ List.replicate finished' (finishedLog setup) :=
    tail ▸ List.mem_append_right _ member
  rw [(List.eq_of_mem_replicate this)]
  rfl

/-- From a read on the open stream, the reader can consume every remaining byte
and reach the send of the finished event, delivering only line events on the
way. -/
theorem reaches_finished (setup : Setup) (external : Bool) (st : State)
    (at_read : st.reader = .read) (opened : st.closed = false) (intact : st.broken = none) :
    ∃ lines : List (List Char), Relation.ReflTransGen (Step setup external) st
      { st with reader := .sendFinished, rest := [],
                delivered := st.delivered ++ lines.map (lineLog setup) } := by
  obtain ⟨n, remaining⟩ : ∃ n, st.rest.length = n := ⟨_, rfl⟩
  induction n using Nat.strong_induction_on generalizing st with
  | _ n ih =>
  have read : Step setup external st _ := Step.read at_read
  rw [show readResult setup st = readString st.rest by simp [readResult, opened, intact]] at read
  rcases readString_cases st.rest with ⟨ok, head, -, -, split⟩ | ⟨eof, -, -, rest⟩
  · -- one complete line, then the bytes after it
    let sent := (afterRead setup.enabledLog (readString st.rest)).pending
    let next : State := { st with reader := .read, rest := (readString st.rest).rest,
                                  delivered := st.delivered ++ sent.map (lineLog setup) }
    have first : Relation.ReflTransGen (Step setup external) st next := by
      rw [afterRead_of_ok ok] at read
      simp only [next, sent, afterRead_of_ok ok]
      cases enabled : setup.enabledLog <;> simp only [enabled] at read ⊢
      · simpa using Relation.ReflTransGen.single read
      · exact .tail (.single read) (.sendLine rfl)
    have shorter : next.rest.length < n := by
      have length := congrArg List.length split
      simp only [List.length_append, List.length_cons] at length
      show (readString st.rest).rest.length < n
      omega
    obtain ⟨lines, run⟩ := ih _ shorter next rfl opened intact rfl
    exact ⟨sent ++ lines, by simpa [next] using first.trans run⟩
  · -- the bytes end without a newline: `io.EOF`
    refine ⟨[], .single ?_⟩
    simpa [afterRead, eof, rest] using read

/-- `logStreamContainer` waiting in its `select`, the command log line sent, and
the reader about to read the whole stream. -/
def selecting (setup : Setup) (content : List Char) : State :=
  ⟨.select, .read, content, false, none, none, none, commandLogs setup⟩

/-- `logStreamContainer` can open the stream, send the command log line when it
is enabled, start the reader, and wait in its `select`. -/
theorem reaches_select (setup : Setup) (content : List Char) :
    Reachable setup content (selecting setup content) := by
  have opened : Step setup true (start content) _ := Step.opened rfl
  cases enabled : setup.enabledCommandLog <;>
    simp only [enabled, if_true, Bool.false_eq_true, if_false] at opened
  · simpa [selecting, start, commandLogs, enabled] using
      (Relation.ReflTransGen.single opened).tail (.spawn rfl)
  · simpa [selecting, start, commandLogs, enabled] using
      ((Relation.ReflTransGen.single opened).tail (.sendCommandLog rfl)).tail (.spawn rfl)

/-- Whatever the log and the call's options, one interleaving has
`logStreamContainer` return `nil`: the reader reads to the end of the stream and
sends the finished event and `nil`, which the call receives. -/
theorem reaches_returned_nil (setup : Setup) (content : List Char) :
    ∃ lines : List (List Char), Reachable setup content
      ⟨.returned none, .read, [], true, none, none, none,
        commandLogs setup ++ lines.map (lineLog setup) ++ [finishedLog setup]⟩ := by
  obtain ⟨lines, toEnd⟩ := reaches_finished setup true (selecting setup content) rfl rfl rfl
  exact ⟨lines, ((((reaches_select setup content).trans toEnd).tail (.sendFinished rfl)).tail
    (.sendNil rfl rfl)).tail (@Step.receive setup true _ none rfl rfl)⟩

/-- From the `select`, the goroutines on their own can have the call return: the
reader reaches a send on `errchan`, which the call receives. -/
theorem reaches_return_of_select {setup : Setup} {content : List Char} {st : State}
    (reachable : Reachable setup content st) (select : st.main = .select) :
    ∃ st' result, Relation.ReflTransGen (Step setup false) st st' ∧
      st'.main = .returned result := by
  have opened := (lifecycle_of_reachable reachable).opened (by simp [select])
  obtain ⟨lines, finished, shape⟩ := invariant_of_reachable reachable
  have active : st.reader ≠ .idle := by simpa [Control, select] using shape.control
  -- with `errchan` empty, a reader about to send an error sends it and the call takes it
  have fromError : ∀ (st : State) (err : GoError), st.main = .select → st.errchan = none →
      st.reader = .sendErr err → ∃ st' result, Relation.ReflTransGen (Step setup false) st st' ∧
        st'.main = .returned result := fun st _ select empty at_send =>
    ⟨_, _, (Relation.ReflTransGen.single (Step.sendErr at_send empty)).tail
      (.receive select rfl), rfl⟩
  -- about to read the open stream, the reader reads to its end and sends `nil`, or
  -- meets the failed connection and sends its error
  have fromRead : ∀ st : State, st.main = .select → st.closed = false → st.errchan = none →
      st.reader = .read → ∃ st' result, Relation.ReflTransGen (Step setup false) st st' ∧
        st'.main = .returned result := fun st select opened empty at_read => by
    cases broken : st.broken with
    | none =>
        obtain ⟨lines, toEnd⟩ := reaches_finished setup false st at_read opened broken
        exact ⟨_, _, ((toEnd.tail (.sendFinished rfl)).tail (.sendNil rfl empty)).tail
          (.receive select rfl), rfl⟩
    | some err =>
        have read : Step setup false st _ := Step.read at_read
        rw [show readResult setup st = ⟨[], .error err, st.rest⟩ by
          simp [readResult, opened, broken]] at read
        obtain ⟨st', result, run, returned⟩ :=
          fromError { st with reader := .sendErr err } err select empty rfl
        exact ⟨st', result, .head read run, returned⟩
  cases full : st.errchan with
  | some value => exact ⟨_, _, .single (.receive select full), rfl⟩
  | none =>
      cases at_reader : st.reader with
      | idle => exact absurd at_reader active
      | read => exact fromRead st select opened full at_reader
      | sendErr err => exact fromError st err select full at_reader
      | sendLine line =>
          obtain ⟨st', result, run, returned⟩ := fromRead
            { st with reader := .read, delivered := st.delivered ++ [lineLog setup line] }
            select opened full rfl
          exact ⟨st', result, .head (.sendLine at_reader) run, returned⟩
      | sendFinished =>
          exact ⟨_, _, ((Relation.ReflTransGen.single (Step.sendFinished at_reader)).tail
            (.sendNil rfl full)).tail (.receive select rfl), rfl⟩
      | sendNil =>
          exact ⟨_, _, (Relation.ReflTransGen.single (Step.sendNil at_reader full)).tail
            (.receive select rfl), rfl⟩

/-- `logStreamContainer` never deadlocks: from every reachable state, a
continuation in which the API does not fail, the connection does not fail and
the context does not end has it return. -/
theorem reaches_return {setup : Setup} {content : List Char} {st : State}
    (reachable : Reachable setup content st) :
    ∃ st' result, Relation.ReflTransGen (Step setup false) st st' ∧
      st'.main = .returned result := by
  have fromSpawn : ∀ st : State, Reachable setup content st → st.main = .spawn →
      ∃ st' result, Relation.ReflTransGen (Step setup false) st st' ∧
        st'.main = .returned result := fun st reachable at_spawn => by
    obtain ⟨st', result, run, returned⟩ :=
      reaches_return_of_select (reachable.tail (.spawn at_spawn)) rfl
    exact ⟨st', result, .head (.spawn at_spawn) run, returned⟩
  have fromCommand : ∀ st : State, Reachable setup content st → st.main = .sendCommandLog →
      ∃ st' result, Relation.ReflTransGen (Step setup false) st st' ∧
        st'.main = .returned result := fun st reachable at_send => by
    obtain ⟨st', result, run, returned⟩ :=
      fromSpawn _ (reachable.tail (.sendCommandLog at_send)) rfl
    exact ⟨st', result, .head (.sendCommandLog at_send) run, returned⟩
  cases at_main : st.main with
  | returned result => exact ⟨st, result, .refl, at_main⟩
  | select => exact reaches_return_of_select reachable at_main
  | spawn => exact fromSpawn st reachable at_main
  | sendCommandLog => exact fromCommand st reachable at_main
  | start =>
      have opened := reachable.tail (.opened at_main)
      cases enabled : setup.enabledCommandLog
      · obtain ⟨st', result, run, returned⟩ := fromSpawn _ opened (by simp [enabled])
        exact ⟨st', result, .head (.opened at_main) run, returned⟩
      · obtain ⟨st', result, run, returned⟩ := fromCommand _ opened (by simp [enabled])
        exact ⟨st', result, .head (.opened at_main) run, returned⟩

/-- The reader waits on its `errchan` send with the slot full, and
`logStreamContainer`, the only receiver, has returned. -/
def Blocked (st : State) : Prop :=
  (st.reader = .sendNil ∨ ∃ err, st.reader = .sendErr err) ∧ st.errchan.isSome ∧
    ∃ result, st.main = .returned result

/-- A blocked reader stays blocked, and nothing more is delivered. -/
theorem blocked_step {setup : Setup} {st st' : State} (blocked : Blocked st)
    (step : Step setup true st st') :
    st'.reader = st.reader ∧ st'.delivered = st.delivered ∧ Blocked st' := by
  obtain ⟨sending, full, result, returned⟩ := blocked
  cases step <;> simp_all [Blocked]

theorem blocked_forever {setup : Setup} {st st' : State} (blocked : Blocked st)
    (run : Relation.ReflTransGen (Step setup true) st st') :
    st'.reader = st.reader ∧ st'.delivered = st.delivered ∧ Blocked st' := by
  induction run with
  | refl => exact ⟨rfl, rfl, blocked⟩
  | tail _ step ih =>
      obtain ⟨reader, delivered, blocked'⟩ := blocked_step ih.2.2 step
      exact ⟨reader.trans ih.1, delivered.trans ih.2.1, blocked'⟩

/-- Whatever the log's content and the call's options, one interleaving has the
reader send the finished event and `nil`, read `io.EOF` again and send a second
finished event before `logStreamContainer` takes the `nil` and returns; the read
after `Close` then gives a third finished event or an error, and the reader
blocks on the full `errchan` forever. -/
theorem finished_repeats_then_reader_blocks (setup : Setup) (content : List Char) :
    ∃ st, Reachable setup content st ∧ st.main = .returned none ∧
      2 ≤ (st.delivered.filter (·.isFinished)).length ∧
      (st.reader = .sendNil ∨ ∃ err, st.reader = .sendErr err) ∧
      ∀ st', Relation.ReflTransGen (Step setup true) st st' →
        st'.reader = st.reader ∧ st'.delivered = st.delivered := by
  obtain ⟨lines, toEnd⟩ :=
    reaches_finished setup true (selecting setup content) rfl rfl rfl
  have returned : Reachable setup content ⟨.returned none, .read, [], true, none, none, some none,
      commandLogs setup ++ lines.map (lineLog setup) ++ [finishedLog setup] ++
        [finishedLog setup]⟩ :=
    ((((((reaches_select setup content).trans toEnd).tail (.sendFinished rfl)).tail
      (.sendNil rfl rfl)).tail (.read rfl)).tail (.sendFinished rfl)).tail (.receive rfl rfl)
      |>.tail (.sendNil rfl rfl)
  obtain ⟨pod, container, enabledCommandLog, enabledLog, closedError⟩ := setup
  cases closedError with
  | none =>
      -- the read after `Close` returns `io.EOF`: a third finished event
      refine ⟨_, (returned.tail (.read rfl)).tail (.sendFinished rfl), rfl,
        by simp [finishedLog]; omega, .inl rfl, fun _ run => ?_⟩
      exact (blocked_forever (by exact ⟨.inl rfl, rfl, _, rfl⟩) run).imp_right And.left
  | some err =>
      -- the read after `Close` fails: the reader blocks sending the error
      refine ⟨_, returned.tail (.read rfl), rfl, by simp [finishedLog]; omega,
        .inr ⟨err, rfl⟩, fun _ run => ?_⟩
      exact (blocked_forever (by exact ⟨.inr ⟨err, rfl⟩, rfl, _, rfl⟩) run).imp_right
        And.left

/-- A log whose content holds no newline (`echo -n`) is read to its end, yet
the only events delivered are the command log line and finished events: its
text is never logged. -/
theorem unterminated_line_never_logged (setup : Setup) (content : List Char)
    (no_newline : '\n' ∉ content) :
    (∃ st, Reachable setup content st ∧ finishedLog setup ∈ st.delivered) ∧
      ∀ st, Reachable setup content st → ∀ log ∈ st.delivered,
        log = commandLog setup.pod setup.container ∨ log = finishedLog setup := by
  refine ⟨?_, fun st reachable log member => ?_⟩
  · obtain ⟨lines, toEnd⟩ :=
      reaches_finished setup true (selecting setup content) rfl rfl rfl
    exact ⟨_, (((reaches_select setup content).trans toEnd).tail (.sendFinished rfl)), by simp⟩
  · obtain ⟨lines, finished, delivered, consumed⟩ := delivered_shape reachable
    rw [newlineSegments_of_not_mem no_newline, List.prefix_nil] at consumed
    subst consumed
    rw [delivered, List.map_nil, List.append_nil, List.mem_append, List.mem_replicate] at member
    rcases member with command | ⟨-, finished⟩
    · exact .inl (mem_commandPart command)
    · exact .inr finished

/-- A container running `echo -n hello`, with its command log and its log
enabled. -/
def echoWithoutNewline : Setup :=
  let container : Container := ⟨"test", "alpine", ["echo", "-n", "hello"], []⟩
  let pod : Pod := ⟨"test", ⟨[], [container], restartPolicyNever⟩, ⟨podRunning, [], []⟩⟩
  ⟨pod, container, true, true, none⟩

theorem unterminated_line_never_logged_hello :
    '\n' ∉ "hello".data ∧
      ((∃ st, Reachable echoWithoutNewline "hello".data st ∧
          finishedLog echoWithoutNewline ∈ st.delivered) ∧
        ∀ st, Reachable echoWithoutNewline "hello".data st → ∀ log ∈ st.delivered,
          log = commandLog echoWithoutNewline.pod echoWithoutNewline.container ∨
            log = finishedLog echoWithoutNewline) :=
  ⟨by decide, unterminated_line_never_logged echoWithoutNewline "hello".data (by decide)⟩

/-- While the stream is open, the lines the reader's `ReadString('\n')` loop has
sent, with the one it is about to send, are newline-terminated segments of the
log, in order: joined, they give back the log up to the bytes not read yet or,
once the reader has met `io.EOF`, up to a final text without a newline. -/
theorem reader_lines_rebuild_log {setup : Setup} {content : List Char} {st : State}
    (reachable : Reachable setup content st) (enabled : setup.enabledLog = true)
    (opened : st.closed = false) (running : st.reader ≠ .idle) :
    ∃ (lines : List (List Char)) (finished : Nat) (unread : List Char),
      st.delivered ++ st.reader.pending.map (lineLog setup) =
        commandLogs setup ++ lines.map (lineLog setup) ++
          List.replicate finished (finishedLog setup) ∧
      (∀ line ∈ lines, ∃ head, '\n' ∉ head ∧ line = head ++ ['\n']) ∧
      content = lines.flatten ++ unread ∧ (unread = st.rest ∨ st.rest = [] ∧ '\n' ∉ unread) := by
  obtain ⟨consumed, finished, segments, delivered, -, unread, whole, unreadIs⟩ :=
    (progress_of_reachable reachable).reading opened running
  exact ⟨consumed, finished, unread, by simpa [enabled] using delivered,
    fun line member => mem_newlineSegments (segments ▸ List.mem_append_left _ member), whole,
    unreadIs⟩

theorem reader_lines_rebuild_log_hello :
    echoWithoutNewline.enabledLog = true ∧
      (selecting echoWithoutNewline "hello".data).closed = false ∧
      ∃ (lines : List (List Char)) (finished : Nat) (unread : List Char),
        (selecting echoWithoutNewline "hello".data).delivered ++
            (selecting echoWithoutNewline "hello".data).reader.pending.map
              (lineLog echoWithoutNewline) =
          commandLogs echoWithoutNewline ++ lines.map (lineLog echoWithoutNewline) ++
            List.replicate finished (finishedLog echoWithoutNewline) ∧
        (∀ line ∈ lines, ∃ head, '\n' ∉ head ∧ line = head ++ ['\n']) ∧
        "hello".data = lines.flatten ++ unread ∧
        (unread = (selecting echoWithoutNewline "hello".data).rest ∨
          (selecting echoWithoutNewline "hello".data).rest = [] ∧ '\n' ∉ unread) :=
  ⟨rfl, rfl, reader_lines_rebuild_log (reaches_select _ _) rfl rfl (by simp [selecting])⟩

end LogStream

end Kubejob
