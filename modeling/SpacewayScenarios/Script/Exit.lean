import SpacewayScenarios.Script.Steps
import SpacewayScenarios.Script.Talks
import SpacewayScenarios.Growth

/-!
# The exit code of a guarded scenario

Most hand-written scenarios compute their return code in one way: guards that `return 1`
when an id is missing from Alice's log, then the scenario, then a verdict on the final reads
of the logs. This module states that computation once, as a function of what a run leaves
in `World.seen`, and proves that `main` computes it:

* **failures come from exited instances**: a body that only talks to its instances raises
  nothing but the `BrokenPipeError` of a write to an instance that has exited, and an
  exited instance stays exited (`BreaksOnExit`, `Talks.breaksOnExit`, `wp_exited_grows`);
* **the exit function** `guardedExit guards verdict`: 1 when Alice's last read lacks one of
  the guarded ids, the verdict of the final reads otherwise. `ExitsBy` allows the one other
  ending of a body, a `BrokenPipeError` in a run where some instance exited, and
  `MainExitsBy` the one other ending of `main`, the `OSError` of a start-up that failed
  before the `try`;
* **a passed guard stays passed**: the guarded ids keep their first match as the log grows
  (`Keeps`), so the early `return 1` and the final verdict are exactly the two branches of
  `guardedExit` on the final reads (`requireId_exitsBy`);
* **`main` refines the exit function** (`launch_exitsBy`): the `finally` block of the
  scripts reads no log and always returns normally (`terminateAll_ok`), so the
  `try ... finally` around the body changes neither the result nor the final reads
  (`launch_wp_of_ok`).
-/

namespace SpacewayScenarios

open Script

/-! ### Failures come from exited instances -/

/-- Some instance has exited. -/
def World.SomeExited (w : World) : Prop := ∃ p, w.exited p = true

/-- One operation keeps every exited instance exited. -/
theorem Op.exec_exited_grows (t : Tick) (o : Op) (w : World) (p : Party)
    (h : w.exited p = true) : (o.exec t (w.tick t)).2.exited p = true := by
  cases o <;> simp only [Op.exec] <;> (try split) <;> simp [Function.update_apply, h]

/-- **Exited instances stay exited** along every run. -/
theorem wp_exited_grows {α : Type} (s : Script α) (w : World) :
    s.wp (fun _ w' => ∀ p, w.exited p = true → w'.exited p = true) w :=
  @wp_advances α (fun a b => ∀ p, a.exited p = true → b.exited p = true) (fun _ _ h => h)
    (fun h h' p hp => h' p (h p hp)) (fun t o w p hp => Op.exec_exited_grows t o w p hp) s w

/-- Every exception `s` raises, from any world and under every behaviour of the instances,
is a `BrokenPipeError`, and the run that raised it has an exited instance. -/
def BreaksOnExit {α : Type} (s : Script α) : Prop :=
  ∀ w, s.wp (fun r w' => ∀ e, r = .error e → e = .brokenPipe ∧ w'.SomeExited) w

/-- **A body that only talks to its instances breaks only on an exited one**: every exception
it raises is the `BrokenPipeError` of a write refused by an instance that has exited. -/
theorem Talks.breaksOnExit {ps : List Party} {α : Type} {s : Script α} (h : Talks ps s) :
    BreaksOnExit s := by
  induction h with
  | pure a => exact fun _ _ h => nomatch h
  | @write p _ _ _ _ hraise ih =>
    intro w t
    simp only [Op.exec]
    split
    · rw [hraise]
      rintro _ ⟨⟩
      exact ⟨rfl, p, ‹_›⟩
    · exact ih _
  | sleep _ ih => exact fun _ _ => ih _
  | read _ ih => exact fun _ _ => ih _ _

theorem runCommand_breaksOnExit (p : Party) (cmd : String) (wait : Nat) :
    BreaksOnExit (runCommand p cmd wait) :=
  (runCommand_talks (List.mem_singleton_self p) cmd wait).breaksOnExit

theorem sleep_breaksOnExit (secs : Nat) : BreaksOnExit (sleep secs) :=
  (sleep_talks [] secs).breaksOnExit

theorem findInLog_breaksOnExit (p : Party) (pattern : Re) : BreaksOnExit (findInLog p pattern) :=
  (findInLog_talks [] p pattern).breaksOnExit

theorem checkLog_breaksOnExit (p : Party) (pattern : Re) : BreaksOnExit (checkLog p pattern) :=
  (checkLog_talks [] p pattern).breaksOnExit

/-! ### Loops and the `finally` block -/

/-- A loop whose every step returns normally returns normally. -/
theorem forM_ok {f : Party → Script Unit} (hf : ∀ p w, (f p).wp (fun r _ => r = .ok ()) w)
    (ps : List Party) (w : World) : (ps.forM f).wp (fun r _ => r = .ok ()) w := by
  induction ps generalizing w with
  | nil => rfl
  | cons p ps ih => exact wp_bind_of (hf p w) (fun _ _ h => nomatch h) fun _ w' _ => ih w'

/-- The `finally` block of the hand-written scripts always returns normally: a wait that runs
out is answered by kills. -/
theorem terminateAll_ok (ps : List Party) (secs : Nat) (w : World) :
    (terminateAll ps secs).wp (fun r _ => r = .ok ()) w :=
  wp_bind_of (@forM_ok terminate (fun _ _ _ => rfl) ps w) (fun _ _ h => nomatch h) fun _ _ _ =>
    (wp_tryCatch _ _ _ _).2 <| wp_forget fun r w' => by
      cases r with
      | ok _ => rfl
      | error _ => exact @forM_ok kill (fun _ _ _ => rfl) ps w'

/-- **`main` through a `finally` block that returns normally**: a property `P` of the result
and the final world holds of every run of `launch` from a world with no events once it holds
of the early `return 1` and of the `OSError` of a start-up that recorded only starts, and the
teardown, returning normally, turns what every run of the body after a start-up establishes
(`R`) into it. -/
theorem launch_wp_of_ok {binary : String} {clients : List (Party × String × String)}
    {body : Script Nat} {teardown : Script Unit} {R P : Except PyExc Nat → World → Prop}
    {w : World} (hw : w.events = []) (hprep : ∀ t, P (.ok 1) (w.tick t))
    (hstart : ∀ w', StartupOnly w'.events → P (.error .osError) w')
    (hbody : ∀ w, StartupOnly w.events → body.wp R w)
    (hteardown : ∀ r w, R r w → teardown.wp (fun r' w' => r' = .ok () ∧ P r w') w) :
    (launch binary clients body teardown).wp P w := by
  have h₀ : StartupOnly w.events := hw ▸ fun _ h => nomatch h
  intro t
  simp only [launch, Op.exec]
  split
  · refine wp_bind_of (forM_startClient_startup binary clients h₀) (fun _ w' ⟨h, he⟩ => ?_)
      fun _ w' hw' => (wp_tryFinally _ _ _ _).2 ?_
    · obtain rfl := Except.error.inj (he.resolve_left nofun)
      exact hstart w' h
    refine wp_mono (fun r w₁ hr => wp_mono (fun r' w₂ h => ?_) (hteardown r w₁ hr))
      (hbody w' hw'.1)
    obtain ⟨rfl, h⟩ := h
    exact h
  · exact hprep t
  · exact hstart _ h₀

/-! ### The exit function -/

/-- Every guard pattern has a match in `content`. -/
def hasIds (guards : List Re) (content : List Char) : Bool :=
  guards.all fun g => (firstGroup g content).isSome

/-- The return code of a guarded scenario on the final reads `seen`: 1 when the last read of
Alice's log lacks one of the guarded ids, the verdict of the reads otherwise. -/
def guardedExit (guards : List Re) (verdict : (Party → List Char) → Nat)
    (seen : Party → List Char) : Nat :=
  if hasIds guards (seen .alice) then verdict seen else 1

/-- The result `r` of a run that ends in `w` is the exit function on the run's final reads,
or a `BrokenPipeError` in a run where some instance has exited. -/
def ExitsBy (guards : List Re) (verdict : (Party → List Char) → Nat) (r : Except PyExc Nat)
    (w : World) : Prop :=
  r = .ok (guardedExit guards verdict w.seen) ∨ r = .error .brokenPipe ∧ w.SomeExited

/-- The result `r` of a run of `main` that ends in `w`: `ExitsBy`, or the `OSError` of a
start-up that failed before the `try`, in a run whose history holds only starts. -/
def MainExitsBy (guards : List Re) (verdict : (Party → List Char) → Nat) (r : Except PyExc Nat)
    (w : World) : Prop :=
  ExitsBy guards verdict r w ∨ r = .error .osError ∧ StartupOnly w.events

theorem hasIds_append (hs gs : List Re) (content : List Char) :
    hasIds (hs ++ gs) content = (hasIds hs content && hasIds gs content) :=
  List.all_append

/-- An id whose first match stays once it appears stays found in a growing log. -/
theorem isSome_firstGroup_mono {g : Re} (hkeep : Keeps g) {c c' : List Char} (hc : c <+: c')
    (h : (firstGroup g c).isSome) : (firstGroup g c').isSome := by
  obtain ⟨t, rfl⟩ := hc
  obtain ⟨v, hv⟩ := Option.isSome_iff_exists.mp h
  simp [firstGroup_append hkeep t hv]

theorem hasIds_mono {hs : List Re} (hkeep : ∀ g ∈ hs, Keeps g) {c c' : List Char}
    (hc : c <+: c') (h : hasIds hs c = true) : hasIds hs c' = true := by
  simp only [hasIds, List.all_eq_true] at h ⊢
  exact fun g hg => isSome_firstGroup_mono (hkeep g hg) hc (h g hg)

theorem exitsBy_nil {verdict : (Party → List Char) → Nat} {r : Except PyExc Nat} {w : World}
    (h : r = .ok (verdict w.seen)) : ExitsBy [] verdict r w :=
  .inl h

/-- A step that raises only on an exited instance, in front of a part that refines the exit
function. -/
theorem bind_exitsBy {α : Type} {s : Script α} {f : α → Script Nat} {gs : List Re}
    {verdict : (Party → List Char) → Nat} {w : World} (hs : BreaksOnExit s)
    (hf : ∀ a w, (f a).wp (ExitsBy gs verdict) w) :
    (s.bind f).wp (ExitsBy gs verdict) w :=
  wp_bind_of (hs w) (fun e _ h => .inr ⟨congrArg _ (h e rfl).1, (h e rfl).2⟩)
    fun a w' _ => hf a w'

/-- A read of a log followed by a value computed from it returns that value of the read. -/
theorem readLog_bind_pure {β : Type} (p : Party) (f : List Char → β) (w : World) :
    ((readLog p).bind fun c => .pure (f c)).wp
      (fun r w' => ∀ o, r = .ok o → o = f (w'.seen p)) w := fun _ => by
  simp only [readLog, Script.bind_op, Script.bind_pure', Op.exec]
  rintro _ ⟨⟩
  simp

/-- **A passed guard stays passed**: `requireId x rest` refines the exit function with the
ids `hs` that `x` extracts in front of the guards of `rest`, when `x` raises only on an
exited instance, finds its value exactly when its last read of Alice's log holds the ids `hs`
(`F` says what it returns), and those ids keep their first match as the log grows. -/
theorem requireId_exitsBy {σ : Type} {x : Script (Option σ)} {rest : σ → Script Nat}
    {hs gs : List Re} {verdict : (Party → List Char) → Nat} {F : Option σ → World → Prop}
    {w : World} (hkeep : ∀ g ∈ hs, Keeps g)
    (hF : ∀ o w, F o w → o.isSome = hasIds hs (w.seen .alice)) (hraise : BreaksOnExit x)
    (hx : ∀ w, x.wp (fun r w' => ∀ o, r = .ok o → F o w') w)
    (hrest : ∀ a w, F (some a) w → (rest a).wp (ExitsBy gs verdict) w) :
    (requireId x rest).wp (ExitsBy (hs ++ gs) verdict) w :=
  wp_bind_of (wp_and (hx w) (hraise w))
    (fun e _ h => .inr ⟨congrArg _ (h.2 e rfl).1, (h.2 e rfl).2⟩) fun o w₁ h => by
      have hF₁ := hF o w₁ (h.1 o rfl)
      cases o with
      | none =>
        refine .inl (congrArg _ ?_)
        simp only [guardedExit, hasIds_append, ← hF₁, Option.isSome_none, Bool.false_and]
        rfl
      | some a =>
        refine wp_mono (fun r w' h' => ?_) (wp_and (hrest a w₁ (h.1 _ rfl)) (wp_seen_grows _ w₁))
        have hp := hasIds_mono hkeep (h'.2 .alice) hF₁.symm
        simpa only [ExitsBy, guardedExit, hasIds_append, hp, Bool.true_and] using h'.1

/-- `requireId_exitsBy` for a guard that extracts the first group of one pattern. -/
theorem requireId_firstGroup_exitsBy {x : Script (Option String)} {rest : String → Script Nat}
    {g : Re} {gs : List Re} {verdict : (Party → List Char) → Nat} {w : World} (hkeep : Keeps g)
    (hraise : BreaksOnExit x)
    (hx : ∀ w, x.wp (fun r w' => ∀ o, r = .ok o → o = firstGroup g (w'.seen .alice)) w)
    (hrest : ∀ a w, firstGroup g (w.seen .alice) = some a → (rest a).wp (ExitsBy gs verdict) w) :
    (requireId x rest).wp (ExitsBy (g :: gs) verdict) w :=
  show (requireId x rest).wp (ExitsBy ([g] ++ gs) verdict) w from
    requireId_exitsBy (fun _ h => by rw [List.mem_singleton.mp h]; exact hkeep)
      (fun o _ h => by simp [h, hasIds]) hraise hx fun a w h => hrest a w h.symm

/-- **`main` refines the exit function**: from a world with no events whose read of Alice's
log lacks a guarded id, when the body refines the exit function, so does `launch` around it
with a `finally` block that reads no log and returns normally; a failed build returns the 1
the exit function gives on the unread logs, and a failed start-up raises `OSError`. -/
theorem launch_exitsBy {binary : String} {clients : List (Party × String × String)}
    {body : Script Nat} {teardown : Script Unit} {gs : List Re}
    {verdict : (Party → List Char) → Nat} {w : World} (hw : w.events = [])
    (hnone : hasIds gs (w.seen .alice) = false)
    (hbody : ∀ w, body.wp (ExitsBy gs verdict) w) (hkeep : KeepsSeen teardown)
    (hok : ∀ w, teardown.wp (fun r _ => r = .ok ()) w) :
    (launch binary clients body teardown).wp (MainExitsBy gs verdict) w :=
  launch_wp_of_ok hw (fun _ => .inl (.inl (by simp [guardedExit, hnone])))
    (fun _ h => .inr ⟨rfl, h⟩) (fun w _ => hbody w) fun r w₁ h =>
    wp_mono (fun _ w₂ h' => ⟨h'.1.2, .inl <| by
        rcases h with h | ⟨h, p, hp⟩
        · exact .inl (by rw [h'.1.1]; exact h)
        · exact .inr ⟨h, p, h'.2 p hp⟩⟩)
      (wp_and (wp_and (hkeep w₁) (hok w₁)) (wp_exited_grows teardown w₁))

/-! ### The exit status -/

/-- **The exit status of a guarded scenario**: a run of `main` that refines the exit function
exits with status 0 exactly when it returns normally, Alice's last read holds every guarded
id, and the verdict of the final reads is 0. -/
theorem MainExitsBy.exitStatus_eq_zero_iff {gs : List Re} {verdict : (Party → List Char) → Nat}
    {r : Except PyExc Nat} {w : World} (h : MainExitsBy gs verdict r w) :
    exitStatus r = 0 ↔
      (∃ n, r = .ok n) ∧ hasIds gs (w.seen .alice) = true ∧ verdict w.seen = 0 := by
  rcases h with (rfl | ⟨rfl, -⟩) | ⟨rfl, -⟩
  · unfold guardedExit
    split <;> simp_all [exitStatus]
  all_goals simp [exitStatus]

section Threshold

variable {gs : List Re} {checks : (Party → List Char) → List Bool} {total threshold : Nat}
  {r : Except PyExc Nat} {w : World}
  (h : MainExitsBy gs (fun seen => partialVerdict total threshold ((checks seen).count true)) r w)
  (ht : threshold ≤ total)
include h ht

/-- **A failed check is left to the others**: with check `i` failed, the run exits with
status 0 exactly when it returns normally past its guards and the other checks reach the
threshold on their own. -/
theorem MainExitsBy.exitStatus_eq_zero_iff_eraseIdx {i : Nat} (hi : (checks w.seen)[i]? = some false) :
    exitStatus r = 0 ↔ (∃ n, r = .ok n) ∧ hasIds gs (w.seen .alice) = true ∧
      threshold ≤ ((checks w.seen).eraseIdx i).count true := by
  simp only [h.exitStatus_eq_zero_iff, partialVerdict_eq_zero ht, count_true_eraseIdx_of_false hi]

end Threshold

end SpacewayScenarios
