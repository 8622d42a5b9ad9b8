import Mathlib.Data.List.Infix
import Mathlib.Logic.Function.Basic

/-!
# Scenario scripts as programs over an append-only world

A scenario script drives engine instances it has started: it writes command lines to
their standard input, sleeps, and reads the files their output goes to. Everything else
happens outside the script: between any two of its steps each instance may append text
to its log or exit. A script is therefore a **free program** over the operations it
performs (`Op`), answered by the operating system from the current `World`, and the
instances' behaviour between steps is a `Tick` chosen by the environment.

* `Script.run s w env` is the operational semantics: before each operation the next tick
  of `env` is applied to the world, then the operation acts on it.
* `Script.wp s Q w` is the weakest precondition: `Q` holds of the result and the final
  world for **every** behaviour of the instances. `wp_run` connects the two layers: a
  `wp` fact holds of the run under every environment.

The world carries its own well-formedness: what the script last read of a log is a
prefix of the log (`World.seen_le_log`), since a log only ever grows.
-/

namespace SpacewayScenarios

/-- The engine instances the scenarios start, named after their users. -/
inductive Party where
  | alice
  | bob
  | charlie
  | dave
  deriving DecidableEq, Repr

/-- The Python exceptions the scripts can meet. -/
inductive PyExc where
  /-- Raised by `stdin.write` to an instance that has exited. -/
  | brokenPipe
  /-- Raised when `Popen.wait(timeout=...)` runs out. -/
  | timeoutExpired
  /-- Slicing `None`, as `bob_id[:16]`. -/
  | typeError
  /-- Raised by `subprocess.Popen` when the engine binary cannot be started, and by
  `subprocess.run` when `cargo` is not installed (its subclass `FileNotFoundError`). -/
  | osError
  deriving DecidableEq, Repr

/-- What the operating system records of a run, most recent first in `World.events`. -/
inductive Event where
  /-- An instance started by `subprocess.Popen(argv)`. -/
  | spawn (p : Party) (argv : List String)
  /-- A command line accepted by an instance's standard input. -/
  | write (p : Party) (line : String)
  /-- A read of a whole log by the script, with what it returned. -/
  | read (p : Party) (content : List Char)
  /-- A `Popen.terminate()` signal. -/
  | terminate (p : Party)
  /-- A `Popen.kill()` signal. -/
  | kill (p : Party)
  deriving DecidableEq, Repr

/-- The state of a scenario run as the operating system holds it. -/
structure World where
  /-- The captured output file of each instance. -/
  log : Party → List Char
  /-- The content of that file at the script's latest read of it. -/
  seen : Party → List Char
  /-- Whether the instance has exited. -/
  exited : Party → Bool
  /-- The events of the run, most recent first. -/
  events : List Event
  seen_le_log : ∀ p, seen p <+: log p

/-- What the hand-written scripts find when they check for the engine binary. -/
inductive Build where
  /-- The binary is there, or `cargo +nightly build` built it. -/
  | ready
  /-- `cargo +nightly build` returned a nonzero code. -/
  | failed
  /-- The binary is missing and `cargo` is not installed: `subprocess.run` raises
  `FileNotFoundError`. -/
  | noCargo
  deriving DecidableEq, Repr

/-- What happens between two steps of a script: each instance appends to its log and may
exit. The same tick answers what the operating system alone decides at the next step: what
the check for the binary finds (`build`), whether `subprocess.Popen` fails to start the
binary (`popenFails`), and whether a shell command run by `os.system` ends with status 0
(`shellOk`). -/
structure Tick where
  out : Party → List Char
  exits : Party → Bool
  build : Build
  popenFails : Bool
  shellOk : Bool

namespace World

/-- The world of a fresh run: the scripts open every log with mode `'w'` first. -/
def init : World where
  log _ := []
  seen _ := []
  exited _ := false
  events := []
  seen_le_log _ := List.prefix_refl _

/-- Apply a tick: logs grow, instances may exit. -/
def tick (w : World) (t : Tick) : World where
  log p := w.log p ++ t.out p
  seen := w.seen
  exited p := w.exited p || t.exits p
  events := w.events
  seen_le_log p := (w.seen_le_log p).trans (List.prefix_append _ _)

/-- Record an event. -/
def record (w : World) (e : Event) : World := { w with events := e :: w.events }

/-- The script reads the whole log of `p`. -/
def see (w : World) (p : Party) : World where
  log := w.log
  seen := Function.update w.seen p (w.log p)
  exited := w.exited
  events := w.events
  seen_le_log q := by
    by_cases h : q = p
    · subst h; simp
    · simpa [Function.update_noteq h] using w.seen_le_log q

/-- An instance is gone. -/
def stop (w : World) (p : Party) : World :=
  { w with exited := Function.update w.exited p true }

@[simp] theorem tick_log (w : World) (t : Tick) (p : Party) :
    (w.tick t).log p = w.log p ++ t.out p := rfl
@[simp] theorem tick_seen (w : World) (t : Tick) : (w.tick t).seen = w.seen := rfl
@[simp] theorem tick_exited (w : World) (t : Tick) (p : Party) :
    (w.tick t).exited p = (w.exited p || t.exits p) := rfl
@[simp] theorem tick_events (w : World) (t : Tick) : (w.tick t).events = w.events := rfl
@[simp] theorem record_log (w : World) (e : Event) : (w.record e).log = w.log := rfl
@[simp] theorem record_seen (w : World) (e : Event) : (w.record e).seen = w.seen := rfl
@[simp] theorem record_exited (w : World) (e : Event) : (w.record e).exited = w.exited := rfl
@[simp] theorem record_events (w : World) (e : Event) :
    (w.record e).events = e :: w.events := rfl
@[simp] theorem see_log (w : World) (p : Party) : (w.see p).log = w.log := rfl
@[simp] theorem see_seen (w : World) (p : Party) :
    (w.see p).seen = Function.update w.seen p (w.log p) := rfl
@[simp] theorem see_exited (w : World) (p : Party) : (w.see p).exited = w.exited := rfl
@[simp] theorem see_events (w : World) (p : Party) : (w.see p).events = w.events := rfl
@[simp] theorem stop_log (w : World) (p : Party) : (w.stop p).log = w.log := rfl
@[simp] theorem stop_seen (w : World) (p : Party) : (w.stop p).seen = w.seen := rfl
@[simp] theorem stop_exited (w : World) (p : Party) :
    (w.stop p).exited = Function.update w.exited p true := rfl
@[simp] theorem stop_events (w : World) (p : Party) : (w.stop p).events = w.events := rfl

end World

/-- The operations a script performs on the operating system. -/
inductive Op where
  /-- Check for the engine binary with `os.path.exists`, building it with `cargo` when it
  is missing. -/
  | prepare
  /-- Run a shell command with `os.system(cmd)`, answering whether its status is 0; the
  status of a pipeline is that of its last command. -/
  | shell (cmd : String)
  /-- Start an instance, as `subprocess.Popen(argv, stdin=PIPE, stdout=log)`, answering
  whether it started. -/
  | spawn (p : Party) (argv : List String)
  /-- Write a command line, as `proc.stdin.write(line + '\n')` and `flush()`. -/
  | write (p : Party) (line : String)
  /-- Sleep, as `time.sleep(secs)`. -/
  | sleep (secs : Nat)
  /-- Read a whole log, as `open(log).read()`. -/
  | read (p : Party)
  /-- Send `proc.terminate()`. -/
  | terminate (p : Party)
  /-- Wait as `proc.wait(timeout=secs)`, answering whether the instance has exited. -/
  | wait (p : Party) (secs : Nat)
  /-- Send `proc.kill()`. -/
  | kill (p : Party)

/-- The answer an operation gives the script. -/
def Op.Resp : Op → Type
  | .prepare => Build
  | .shell _ => Bool
  | .spawn _ _ => Bool
  | .write _ _ => Bool
  | .read _ => List Char
  | .wait _ _ => Bool
  | _ => Unit

/-- One operation on the world after the tick `t`: a write reaches only a live instance,
a read sees the whole log, and both are recorded. -/
def Op.exec (t : Tick) : (o : Op) → World → o.Resp × World
  | .prepare, w => (t.build, w)
  | .shell _, w => (t.shellOk, w)
  | .spawn p argv, w => if t.popenFails then (false, w) else (true, w.record (.spawn p argv))
  | .write p line, w => if w.exited p then (false, w) else (true, w.record (.write p line))
  | .sleep _, w => ((), w)
  | .read p, w => (w.log p, (w.see p).record (.read p (w.log p)))
  | .terminate p, w => ((), w.record (.terminate p))
  | .wait p _, w => (w.exited p, w)
  | .kill p, w => ((), (w.record (.kill p)).stop p)

/-- A scenario script returning an `α`: a tree of operations whose leaves return a value
or raise a Python exception. -/
inductive Script (α : Type) where
  | pure (a : α)
  | raise (e : PyExc)
  | op (o : Op) (k : o.Resp → Script α)

namespace Script

variable {α β : Type}

/-- Sequencing. -/
def bind : Script α → (α → Script β) → Script β
  | pure a, f => f a
  | raise e, _ => raise e
  | op o k, f => op o fun r => (k r).bind f

instance : Monad Script where
  pure := pure
  bind := bind

/-- Python's `try: s except: h`. -/
def tryCatch : Script α → (PyExc → Script α) → Script α
  | pure a, _ => pure a
  | raise e, h => h e
  | op o k, h => op o fun r => (k r).tryCatch h

/-- Python's `try: body finally: fin`: `fin` runs after a normal return and before an exception
propagates. -/
def tryFinally (body : Script α) (fin : Script Unit) : Script α :=
  (body.tryCatch fun e => fin.bind fun _ => raise e).bind fun a => fin.bind fun _ => pure a

/-- Perform one operation. -/
def perform (o : Op) : Script o.Resp := op o pure

@[simp] theorem bind_pure' (a : α) (f : α → Script β) : (pure a).bind f = f a := rfl
@[simp] theorem bind_raise (e : PyExc) (f : α → Script β) : (raise e).bind f = raise e := rfl
@[simp] theorem bind_op (o : Op) (k : o.Resp → Script α) (f : α → Script β) :
    (op o k).bind f = op o fun r => (k r).bind f := rfl
@[simp] theorem bind_eq (s : Script α) (f : α → Script β) : s >>= f = s.bind f := rfl
@[simp] theorem pure_eq (a : α) : (Pure.pure a : Script α) = pure a := rfl
@[simp] theorem perform_bind (o : Op) (f : o.Resp → Script β) :
    (perform o).bind f = op o f := rfl

theorem bind_assoc {γ : Type} (s : Script α) (f : α → Script β) (g : β → Script γ) :
    (s.bind f).bind g = s.bind fun a => (f a).bind g := by
  induction s with
  | pure a => rfl
  | raise e => rfl
  | op o k ih => simp only [bind_op, ih]

/-- The result of a run and the world it leaves. -/
structure Outcome (α : Type) where
  result : Except PyExc α
  world : World

/-- The operational semantics: before each operation the next tick of the environment is
applied, then the operation acts on the world. -/
def run : Script α → World → (Nat → Tick) → Outcome α
  | pure a, w, _ => ⟨.ok a, w⟩
  | raise e, w, _ => ⟨.error e, w⟩
  | op o k, w, env =>
    let x := o.exec (env 0) ((w.tick (env 0)))
    (k x.1).run x.2 fun n => env (n + 1)

/-- The weakest precondition of `Q` over every behaviour of the instances. -/
def wp : Script α → (Except PyExc α → World → Prop) → World → Prop
  | pure a, Q, w => Q (.ok a) w
  | raise e, Q, w => Q (.error e) w
  | op o k, Q, w => ∀ t : Tick, let x := o.exec t (w.tick t); (k x.1).wp Q x.2

@[simp] theorem wp_pure (a : α) (Q : Except PyExc α → World → Prop) (w : World) :
    (pure a).wp Q w = Q (.ok a) w := rfl
@[simp] theorem wp_raise (e : PyExc) (Q : Except PyExc α → World → Prop) (w : World) :
    (raise e : Script α).wp Q w = Q (.error e) w := rfl
theorem wp_op (o : Op) (k : o.Resp → Script α) (Q : Except PyExc α → World → Prop)
    (w : World) :
    (op o k).wp Q w = ∀ t : Tick, (k (o.exec t (w.tick t)).1).wp Q (o.exec t (w.tick t)).2 :=
  rfl

/-- **Adequacy**: a weakest-precondition fact holds of the run under every environment. -/
theorem wp_run {s : Script α} {Q : Except PyExc α → World → Prop} {w : World}
    (h : s.wp Q w) (env : Nat → Tick) : Q (s.run w env).result (s.run w env).world := by
  induction s generalizing w env with
  | pure a => exact h
  | raise e => exact h
  | op o k ih => exact ih _ (h (env 0)) _

theorem wp_mono {s : Script α} {Q Q' : Except PyExc α → World → Prop} {w : World}
    (hQ : ∀ r w, Q r w → Q' r w) (h : s.wp Q w) : s.wp Q' w := by
  induction s generalizing w with
  | pure a => exact hQ _ _ h
  | raise e => exact hQ _ _ h
  | op o k ih => exact fun t => ih _ (h t)

/-- The postcondition a bind hands to its first part. -/
def bindPost (f : α → Script β) (Q : Except PyExc β → World → Prop) :
    Except PyExc α → World → Prop
  | .ok a, w => (f a).wp Q w
  | .error e, w => Q (.error e) w

theorem wp_bind (s : Script α) (f : α → Script β) (Q : Except PyExc β → World → Prop)
    (w : World) : (s.bind f).wp Q w ↔ s.wp (bindPost f Q) w := by
  induction s generalizing w with
  | pure a => rfl
  | raise e => rfl
  | op o k ih => exact forall_congr' fun t => ih _ _

/-- The postcondition a handler hands to its body. -/
def catchPost (h : PyExc → Script α) (Q : Except PyExc α → World → Prop) :
    Except PyExc α → World → Prop
  | .ok a, w => Q (.ok a) w
  | .error e, w => (h e).wp Q w

theorem wp_tryCatch (s : Script α) (h : PyExc → Script α)
    (Q : Except PyExc α → World → Prop) (w : World) :
    (s.tryCatch h).wp Q w ↔ s.wp (catchPost h Q) w := by
  induction s generalizing w with
  | pure a => rfl
  | raise e => rfl
  | op o k ih => exact forall_congr' fun t => ih _ _

end Script

end SpacewayScenarios
