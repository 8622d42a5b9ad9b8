import SpacewayScenarios.Script.Steps

/-!
# Bodies that only talk to their instances, and what they keep

Between starting its instances and the `finally` block, a scenario only does three things:
it writes command lines with the shared `run_command`, reads logs, and sleeps. `Talks ps s`
says this of a script `s` and the instances `ps` it writes to: **its only exception is the
`BrokenPipeError` of a write refused by an exited instance, and it starts, terminates and
kills nothing**. It is stated once, on the operations, and each scenario shows it of its
body piece by piece (`Talks.bind`, `talks_elim` and the helpers' lemmas); what a run of such
a body can do then follows from it alone: the exceptions of `Script.Exit` and the lifecycle
of `Script.Lifecycle`.

test-permissions, whose `run_command` swallows the broken pipe and whose body catches every
exception, is not of this shape and is treated on its own.

The properties of whole runs are **invariants of the history** (`Preserves`): a property of
the recorded events that every run of a piece keeps, whether it returns or raises. They
compose along the scripts' combinators (`preserves_bind`, `preserves_tryFinally`,
`forM_preserves`), sleeps keep every one of them and reads every one a recorded read keeps,
a body that talks keeps every one that its writes and reads keep (`Talks.preserves`), and
`launch` keeps every one that its body, its teardown and the start of an instance keep
(`launch_preserves`).
-/

namespace SpacewayScenarios

/-- `s` only talks to the instances `ps`: it writes command lines to them with `run_command`,
reads logs and sleeps; it raises only the `BrokenPipeError` of a refused write. -/
inductive Talks (ps : List Party) : {α : Type} → Script α → Prop where
  | pure {α : Type} (a : α) : Talks ps (.pure a)
  | write {α : Type} {p : Party} {cmd : String} {k : Bool → Script α} (hp : p ∈ ps)
      (hk : Talks ps (k true)) (hraise : k false = .raise .brokenPipe) :
      Talks ps (.op (.write p cmd) k)
  | sleep {α : Type} {secs : Nat} {k : Unit → Script α} (hk : Talks ps (k ())) :
      Talks ps (.op (.sleep secs) k)
  | read {α : Type} {p : Party} {k : List Char → Script α} (hk : ∀ c, Talks ps (k c)) :
      Talks ps (.op (.read p) k)

section

variable {ps : List Party} {α β : Type}

theorem Talks.bind {s : Script α} {f : α → Script β} (hs : Talks ps s)
    (hf : ∀ a, Talks ps (f a)) : Talks ps (s.bind f) := by
  induction hs with
  | pure a => exact hf a
  | write hp _ hraise ih => exact .write hp ih (by rw [hraise]; rfl)
  | sleep _ ih => exact .sleep ih
  | read _ ih => exact .read ih

/-- The scripts' branches on an extracted id, `whenSome` and the guard of `requireId`. -/
theorem talks_elim {σ : Type} {a : Script α} {f : σ → Script α} (ha : Talks ps a)
    (hf : ∀ v, Talks ps (f v)) (o : Option σ) : Talks ps (o.elim a f) := by
  cases o
  exacts [ha, hf _]

theorem runCommand_talks {p : Party} (hp : p ∈ ps) (cmd : String) (wait : Nat) :
    Talks ps (runCommand p cmd wait) :=
  .write hp (.sleep (.pure ())) rfl

theorem sleep_talks (ps : List Party) (secs : Nat) : Talks ps (sleep secs) := .sleep (.pure ())

theorem readLog_talks (ps : List Party) (p : Party) : Talks ps (readLog p) :=
  .read fun _ => .pure _

theorem findInLog_talks (ps : List Party) (p : Party) (pattern : Re) :
    Talks ps (findInLog p pattern) := .read fun _ => .pure _

theorem checkLog_talks (ps : List Party) (p : Party) (pattern : Re) :
    Talks ps (checkLog p pattern) := .read fun _ => .pure _

theorem forM_talks {γ : Type} {f : γ → Script Unit} :
    ∀ {cs : List γ}, (∀ c ∈ cs, Talks ps (f c)) → Talks ps (cs.forM f)
  | [], _ => .pure _
  | c :: _, h => (h c (List.mem_cons_self _ _)).bind fun _ =>
      forM_talks fun c' hc' => h c' (List.mem_cons_of_mem _ hc')

theorem createSpace_talks {qs : List Party} (hqs : ∀ p ∈ qs, p ∈ ps) (hp : Party.alice ∈ ps)
    (name : String) : Talks ps (createSpace runCommand qs name) :=
  (sleep_talks _ _).bind fun _ => (forM_talks fun p h => runCommand_talks (hqs p h) _ _).bind
    fun _ => (runCommand_talks hp _ _).bind fun _ => findInLog_talks _ _ _

theorem spaceDetails_talks (hp : Party.alice ∈ ps) : Talks ps (spaceDetails runCommand) :=
  (runCommand_talks hp _ _).bind fun _ => (findInLog_talks _ _ _).bind fun _ =>
    (runCommand_talks hp _ _).bind fun _ => (findInLog_talks _ _ _).bind fun _ =>
    (runCommand_talks hp _ _).bind fun _ => (findInLog_talks _ _ _).bind fun _ => .pure _

theorem joinSpace_talks {p : Party} (hp : p ∈ ps)
    (details : Option String × Option String × Option String) (joinWait whoamiWait : Nat) :
    Talks ps (joinSpace runCommand p details joinWait whoamiWait) :=
  (runCommand_talks hp _ _).bind fun _ => (runCommand_talks hp _ _).bind fun _ =>
    (runCommand_talks hp _ _).bind fun _ => findInLog_talks _ _ _

theorem navigate_talks {p : Party} (hp : p ∈ ps) (spaceId title : String) :
    Talks ps (navigate p spaceId title) :=
  (runCommand_talks hp _ _).bind fun _ => (runCommand_talks hp _ _).bind fun _ =>
    (findInLog_talks _ _ _).bind fun _ => talks_elim (.pure ()) (fun _ =>
      (runCommand_talks hp _ _).bind fun _ => (runCommand_talks hp _ _).bind fun _ =>
      (findInLog_talks _ _ _).bind fun _ => talks_elim (.pure ())
        (fun _ => runCommand_talks hp _ _) _) _

end

/-! ### Invariants of the history -/

/-- Every run of `s` from a world whose history satisfies `I` ends in one whose history
satisfies `I`, whether it returns or raises. -/
structure Preserves {α : Type} (I : List Event → Prop) (s : Script α) : Prop where
  keeps : ∀ w, I w.events → s.wp (fun _ w' => I w'.events) w

section Preserves

open Script (wp_mono wp_bind_of wp_tryCatch)

variable {I : List Event → Prop} {α β : Type}

theorem preserves_pure (I : List Event → Prop) (a : α) : Preserves I (.pure a) :=
  ⟨fun _ h => h⟩

theorem preserves_raise (I : List Event → Prop) (e : PyExc) : Preserves I (.raise e : Script α) :=
  ⟨fun _ h => h⟩

theorem preserves_bind {s : Script α} {f : α → Script β} (hs : Preserves I s)
    (hf : ∀ a, Preserves I (f a)) : Preserves I (s.bind f) :=
  ⟨fun w hw => wp_bind_of (hs.keeps w hw) (fun _ _ h => h) fun a w' h => (hf a).keeps w' h⟩

theorem preserves_tryCatch {s : Script α} {h : PyExc → Script α} (hs : Preserves I s)
    (hh : ∀ e, Preserves I (h e)) : Preserves I (s.tryCatch h) :=
  ⟨fun w hw => (wp_tryCatch _ _ _ _).2 <| wp_mono (fun r w' h' => by
    cases r with
    | ok _ => exact h'
    | error e => exact (hh e).keeps w' h') (hs.keeps w hw)⟩

theorem preserves_tryFinally {body : Script α} {fin : Script Unit} (hbody : Preserves I body)
    (hfin : Preserves I fin) : Preserves I (Script.tryFinally body fin) :=
  preserves_bind (preserves_tryCatch hbody fun _ => preserves_bind hfin fun _ =>
    preserves_raise I _) fun _ => preserves_bind hfin fun _ => preserves_pure I _

/-- The scripts' branches on an extracted id, `whenSome` and the guard of `requireId`. -/
theorem preserves_elim {σ : Type} {a : Script α} {f : σ → Script α} (ha : Preserves I a)
    (hf : ∀ v, Preserves I (f v)) (o : Option σ) : Preserves I (o.elim a f) := by
  cases o
  exacts [ha, hf _]

theorem forM_preserves {γ : Type} {f : γ → Script Unit} :
    ∀ {cs : List γ}, (∀ c ∈ cs, Preserves I (f c)) → Preserves I (cs.forM f)
  | [], _ => preserves_pure I _
  | c :: _, h => preserves_bind (h c (List.mem_cons_self _ _)) fun _ =>
      forM_preserves fun c' hc' => h c' (List.mem_cons_of_mem _ hc')

theorem sleep_preserves (I : List Event → Prop) (secs : Nat) : Preserves I (sleep secs) :=
  ⟨fun _ h _ => h⟩

theorem waitFor_preserves (I : List Event → Prop) (p : Party) (secs : Nat) :
    Preserves I (waitFor p secs) := ⟨fun _ h t => by
  simp only [waitFor, Op.exec]
  split <;> exact h⟩

section Reads

variable (hread : ∀ es p c, I es → I (.read p c :: es))
include hread

theorem readLog_preserves (p : Party) : Preserves I (readLog p) :=
  ⟨fun _ h _ => hread _ _ _ h⟩

theorem findInLog_preserves (p : Party) (pattern : Re) : Preserves I (findInLog p pattern) :=
  ⟨fun _ h _ => hread _ _ _ h⟩

theorem checkLog_preserves (p : Party) (pattern : Re) : Preserves I (checkLog p pattern) :=
  ⟨fun _ h _ => hread _ _ _ h⟩

/-- **A body that only talks keeps what its writes and reads keep**: an invariant that every
write to one of its instances keeps, and every read. -/
theorem Talks.preserves {ps : List Party} {s : Script α} (h : Talks ps s)
    (hwrite : ∀ es p cmd, p ∈ ps → I es → I (.write p cmd :: es)) : Preserves I s := by
  induction h with
  | pure a => exact preserves_pure I a
  | @write p cmd _ hp _ hraise ih =>
    refine ⟨fun w hw t => ?_⟩
    simp only [Op.exec]
    split
    · rw [hraise]
      exact hw
    · exact ih.keeps _ (hwrite _ p cmd hp hw)
  | sleep _ ih => exact ⟨fun _ hw _ => ih.keeps _ hw⟩
  | read _ ih => exact ⟨fun _ hw _ => (ih _).keeps _ (hread _ _ _ hw)⟩

end Reads

section Signals

variable (hsig : ∀ es e, (∀ p cmd, e ≠ .write p cmd) → I es → I (e :: es))
include hsig

theorem terminate_preserves (p : Party) : Preserves I (terminate p) :=
  ⟨fun _ h _ => hsig _ _ (fun _ _ e => nomatch e) h⟩

theorem kill_preserves (p : Party) : Preserves I (kill p) :=
  ⟨fun _ h _ => hsig _ _ (fun _ _ e => nomatch e) h⟩

/-- The teardown of the hand-written scripts writes nothing: it keeps every invariant that the
signals `terminate` and `kill` keep. -/
theorem terminateAll_preserves (ps : List Party) (secs : Nat) : Preserves I (terminateAll ps secs) :=
  preserves_bind (forM_preserves fun p _ => terminate_preserves hsig p) fun _ =>
    preserves_tryCatch (forM_preserves fun p _ => waitFor_preserves I p secs) fun _ =>
      forM_preserves fun p _ => kill_preserves hsig p

end Signals

/-- `Popen` keeps what a start keeps: it records one, or raises having recorded nothing. -/
theorem startClient_preserves (hspawn : ∀ es p argv, I es → I (.spawn p argv :: es))
    (binary : String) (c : Party × String × String) : Preserves I (startClient binary c) :=
  ⟨fun _ h => startClient_wp binary c (fun _ => h) fun _ => hspawn _ _ _ h⟩

/-- **`launch` keeps what its parts keep**: the start of each instance, the body and the
teardown. -/
theorem launch_preserves {binary : String} {clients : List (Party × String × String)}
    {body : Script Nat} {teardown : Script Unit}
    (hspawn : ∀ es p argv, I es → I (.spawn p argv :: es)) (hbody : Preserves I body)
    (hteardown : Preserves I teardown) : Preserves I (launch binary clients body teardown) :=
  ⟨fun w hw t => by
    simp only [launch, Op.exec]
    split
    · exact (preserves_bind (forM_preserves fun c (_ : c ∈ clients) =>
        startClient_preserves hspawn binary c)
        (fun _ => preserves_tryFinally hbody hteardown)).keeps _ hw
    all_goals exact hw⟩

end Preserves

end SpacewayScenarios
