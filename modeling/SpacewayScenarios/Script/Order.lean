import SpacewayScenarios.Script.Talks

/-!
# The order of a run's command lines

The member-removal scenarios send some messages after the kick command, and their verdicts
check that the removed member never shows them. That check is about what reaches the logs;
whether those messages were written after the kick at all is a property of the order of a
run's writes. This module states such orders on a run's history: **every write of kind `b`
has a write of kind `a` below it**, that is, written earlier (`Precedes`). It is an
invariant of the history, and the scripts keep it:

* a command line of another kind than `b` keeps it, whether the instance takes it or not
  (`runCommand_preserves_order`); reads of a log, starting an instance and the teardown
  write nothing (`precedes_read`);
* the shared steps of `Script.Steps` send no message and no kick, so they keep every such
  order (`SendOrKick`, `createSpace_keepsOrder`, `joinSpace_keepsOrder`);
* a command line of kind `a` that an instance takes makes every later write harmless, so the
  rest of the script is not looked at (`KeepsOrder`, `keepsOrder_bind`).

`KickFirst` instantiates it for the member-removal scenarios: `a` is a `kick` sent to
Alice, `b` the messages the script sends after its kick. `KicksAdded` instantiates it once
per user id: `a` is `member add id`, `b` is `kick id`, both sent to Alice; an add of the id
asked about comes first, and any other id is told apart from it (`runCommand_addOf`).
-/

namespace SpacewayScenarios

open Script (wp_mono wp_bind_of wp_events_grow)

/-- In the history `es`, most recent first, every write of a command of kind `b` has a write
of a command of kind `a` below it: one written earlier. -/
def Precedes (a b : Party → String → Prop) (es : List Event) : Prop :=
  ∀ new p cmd old, es = new ++ .write p cmd :: old → b p cmd → ∃ q c, a q c ∧ .write q c ∈ old

/-- A write of a command of kind `a` is in the history `es`. -/
def Written (a : Party → String → Prop) (es : List Event) : Prop :=
  ∃ q c, a q c ∧ .write q c ∈ es

section Precedes

variable {a b : Party → String → Prop} {es : List Event}

theorem precedes_nil (a b : Party → String → Prop) : Precedes a b [] := fun _ _ _ _ h => by
  simp at h

/-- One more event keeps the order unless it is a write of kind `b` with none of kind `a`
below it. -/
theorem Precedes.cons {e : Event} (h : Precedes a b es)
    (he : ∀ p cmd, e = .write p cmd → b p cmd → Written a es) : Precedes a b (e :: es) := by
  rintro (_ | ⟨x, new⟩) p cmd old heq hb <;>
    simp only [List.nil_append, List.cons_append, List.cons.injEq] at heq
  · exact heq.2 ▸ he p cmd heq.1 hb
  · exact h new p cmd old heq.2 hb

/-- A write of another kind than `b` keeps the order. -/
theorem Precedes.cons_write {p : Party} {cmd : String} (h : Precedes a b es) (hb : ¬ b p cmd) :
    Precedes a b (.write p cmd :: es) :=
  h.cons fun _ _ he hb' => absurd (by cases he; exact hb') hb

/-- An event that is not a write keeps the order. -/
theorem Precedes.cons_of_ne {e : Event} (h : Precedes a b es) (he : ∀ p cmd, e ≠ .write p cmd) :
    Precedes a b (e :: es) :=
  h.cons fun p cmd h' => absurd h' (he p cmd)

/-- A read keeps the order. -/
theorem precedes_read (es : List Event) (p : Party) (c : List Char) (h : Precedes a b es) :
    Precedes a b (.read p c :: es) :=
  h.cons_of_ne fun _ _ e => nomatch e

/-- Once a write of kind `a` is in the history, any events can follow. -/
theorem Precedes.append_of_written (h : Precedes a b es) (ha : Written a es) (new : List Event) :
    Precedes a b (new ++ es) := by
  obtain ⟨q, c, ha, hm⟩ := ha
  intro new' p cmd old heq hb
  rcases List.append_eq_append_iff.mp heq with ⟨m, rfl, h'⟩ | ⟨_ | ⟨y, m⟩, rfl, h'⟩
  · exact h m p cmd old h' hb
  · exact h [] p cmd old (by simpa using h'.symm) hb
  · simp only [List.cons_append, List.cons.injEq] at h'
    exact ⟨q, c, ha, h'.2 ▸ List.mem_append_right _ hm⟩

end Precedes

/-! ### Scripts that keep the order -/

section KeepsOrder

variable {a b : Party → String → Prop} {α β : Type}

/-- Every run of `s` from a history in order ends in one in order; with `first`, every normal
return of it has also made a write of kind `a`. -/
structure KeepsOrder (a b : Party → String → Prop) (first : Bool) (s : Script α) : Prop where
  keeps : ∀ w, Precedes a b w.events → s.wp (fun r w' => Precedes a b w'.events ∧
    (first = true → ∀ x, r = .ok x → Written a w'.events)) w

theorem KeepsOrder.preserves {first : Bool} {s : Script α} (h : KeepsOrder a b first s) :
    Preserves (Precedes a b) s := ⟨fun w hw => wp_mono (fun _ _ h => h.1) (h.keeps w hw)⟩

theorem keepsOrder_of_preserves {s : Script α} (h : Preserves (Precedes a b) s) :
    KeepsOrder a b false s := ⟨fun w hw => wp_mono (fun _ _ h' => ⟨h', nofun⟩) (h.keeps w hw)⟩

/-- Sequencing: the continuation keeps the order, or a write of kind `a` came first. -/
theorem keepsOrder_bind {first : Bool} {s : Script α} {f : α → Script β}
    (hs : KeepsOrder a b first s) (hf : first = true ∨ ∀ x, KeepsOrder a b false (f x)) :
    KeepsOrder a b false (s.bind f) :=
  ⟨fun w hw => wp_bind_of (hs.keeps w hw) (fun _ _ h => ⟨h.1, nofun⟩) fun x w₁ h₁ => by
    rcases hf with rfl | hf
    · exact wp_mono (fun _ _ ⟨new, hnew⟩ => ⟨hnew ▸ h₁.1.append_of_written (h₁.2 rfl x rfl) new,
        nofun⟩) (wp_events_grow _ _)
    · exact (hf x).keeps w₁ h₁.1⟩

theorem sleep_keepsOrder (secs : Nat) : KeepsOrder a b false (sleep secs) :=
  keepsOrder_of_preserves (sleep_preserves _ secs)

theorem readLog_keepsOrder (p : Party) : KeepsOrder a b false (readLog p) :=
  keepsOrder_of_preserves (readLog_preserves precedes_read p)

theorem findInLog_keepsOrder (p : Party) (pattern : Re) :
    KeepsOrder a b false (findInLog p pattern) :=
  keepsOrder_of_preserves (findInLog_preserves precedes_read p pattern)

theorem pure_keepsOrder (x : α) : KeepsOrder a b false (.pure x) :=
  keepsOrder_of_preserves (preserves_pure _ x)

theorem keepsOrder_elim {σ : Type} {x : Script α} {f : σ → Script α}
    (hx : KeepsOrder a b false x) (hf : ∀ v, KeepsOrder a b false (f v)) (o : Option σ) :
    KeepsOrder a b false (o.elim x f) := by
  cases o
  exacts [hx, hf _]

/-- A command line of another kind than `b` keeps the order, whether the instance takes it or
not. -/
theorem runCommand_preserves_order {p : Party} {cmd : String} (hb : ¬ b p cmd) (wait : Nat) :
    Preserves (Precedes a b) (runCommand p cmd wait) := ⟨fun w hw t => by
  simp only [runCommand, Op.exec]
  split
  · exact hw
  · exact fun _ => hw.cons_write hb⟩

theorem runCommand_keepsOrder {p : Party} {cmd : String} (hb : ¬ b p cmd) (wait : Nat) :
    KeepsOrder a b false (runCommand p cmd wait) :=
  keepsOrder_of_preserves (runCommand_preserves_order hb wait)

/-- A command line of kind `a` (and not `b`): when `run_command` returns, the instance took
it. -/
theorem runCommand_first {p : Party} {cmd : String} (ha : a p cmd) (hb : ¬ b p cmd)
    (wait : Nat) : KeepsOrder a b true (runCommand p cmd wait) := ⟨fun w hw t => by
  simp only [runCommand, Op.exec]
  split
  · exact ⟨hw, fun _ _ h => nomatch h⟩
  · exact fun _ => ⟨hw.cons_write hb, fun _ _ _ => ⟨p, cmd, ha, List.mem_cons_self _ _⟩⟩⟩

theorem terminateAll_preserves_order (ps : List Party) (secs : Nat) :
    Preserves (Precedes a b) (terminateAll ps secs) :=
  terminateAll_preserves (fun _ _ he h => h.cons_of_ne he) ps secs

/-- **`launch` keeps the order its body keeps**: starting the instances and the teardown of
the hand-written scripts write nothing. -/
theorem launch_precedes {binary : String} {clients : List (Party × String × String)}
    {body : Script Nat} {ps : List Party} {secs : Nat} (hbody : Preserves (Precedes a b) body)
    (env : Nat → Tick) :
    Precedes a b
      ((launch binary clients body (terminateAll ps secs)).run World.init env).world.events :=
  Script.wp_run ((launch_preserves (fun _ _ _ h => h.cons_of_ne fun _ _ e => nomatch e) hbody
    (terminateAll_preserves_order ps secs)).keeps _ (precedes_nil a b)) env

end KeepsOrder

/-! ### The steps the scripts repeat -/

/-- The command lines of kind `b` all start with `send ` or with `kick `. -/
def SendOrKick (b : Party → String → Prop) : Prop :=
  ∀ p cmd, b p cmd → "send ".toList <+: cmd.toList ∨ "kick ".toList <+: cmd.toList

/-- A command that starts with a text `s` that neither starts `send ` or `kick ` nor is
started by one is not of kind `b`. -/
theorem SendOrKick.not_of_start {b : Party → String → Prop} (hb : SendOrKick b) {s cmd : String}
    {p : Party} (hs : s.toList <+: cmd.toList)
    (h : (¬ s.toList <+: "send ".toList ∧ ¬ "send ".toList <+: s.toList) ∧
      (¬ s.toList <+: "kick ".toList ∧ ¬ "kick ".toList <+: s.toList)) : ¬ b p cmd := fun hbc =>
  (hb p cmd hbc).elim (fun hk => (List.prefix_or_prefix_of_prefix hs hk).elim h.1.1 h.1.2)
    fun hk => (List.prefix_or_prefix_of_prefix hs hk).elim h.2.1 h.2.2

section Steps

variable {a b : Party → String → Prop} (hb : SendOrKick b)
include hb

/-- The key packages and the new space keep every order on `send` and `kick` lines. -/
theorem createSpace_keepsOrder (ps : List Party) (name : String) :
    KeepsOrder a b false (createSpace runCommand ps name) :=
  keepsOrder_bind (sleep_keepsOrder _) <| .inr fun _ =>
  keepsOrder_bind (keepsOrder_of_preserves (forM_preserves fun _ _ => runCommand_preserves_order
    (hb.not_of_start (List.prefix_refl "keypackage publish".toList) (by decide)) _)) <| .inr fun _ =>
  keepsOrder_bind (runCommand_keepsOrder (hb.not_of_start
    (prefix_toList_append "space create " _) (by decide)) _) <| .inr fun _ =>
  findInLog_keepsOrder _ _

/-- `context`, `invite create` and `network` keep every order on `send` and `kick` lines. -/
theorem spaceDetails_keepsOrder : KeepsOrder a b false (spaceDetails runCommand) :=
  have hc (cmd : String) (wait : Nat) (h : _) : KeepsOrder a b false (runCommand .alice cmd wait) :=
    runCommand_keepsOrder (hb.not_of_start (List.prefix_refl cmd.toList) h) _
  keepsOrder_bind (hc "context" _ (by decide)) <| .inr fun _ =>
  keepsOrder_bind (findInLog_keepsOrder _ _) <| .inr fun _ =>
  keepsOrder_bind (hc "invite create" _ (by decide)) <| .inr fun _ =>
  keepsOrder_bind (findInLog_keepsOrder _ _) <| .inr fun _ =>
  keepsOrder_bind (hc "network" _ (by decide)) <| .inr fun _ =>
  keepsOrder_bind (findInLog_keepsOrder _ _) <| .inr fun _ => pure_keepsOrder _

/-- A member's `connect`, `join` and `whoami` keep every order on `send` and `kick` lines. -/
theorem joinSpace_keepsOrder (p : Party) (details : Option String × Option String × Option String)
    (joinWait whoamiWait : Nat) :
    KeepsOrder a b false (joinSpace runCommand p details joinWait whoamiWait) :=
  keepsOrder_bind (runCommand_keepsOrder (hb.not_of_start
    (prefix_toList_append "connect /ip4/127.0.0.1/tcp/9001/p2p/" _) (by decide)) _) <| .inr fun _ =>
  keepsOrder_bind (runCommand_keepsOrder (hb.not_of_start ((prefix_toList_append "join " _).trans
    ((prefix_toList_append _ " ").trans (prefix_toList_append _ _))) (by decide)) _) <| .inr fun _ =>
  keepsOrder_bind (runCommand_keepsOrder (hb.not_of_start (List.prefix_refl "whoami".toList)
    (by decide)) _) <| .inr fun _ => findInLog_keepsOrder _ _

/-- A member's navigation to a thread keeps every order on `send` and `kick` lines. -/
theorem navigate_keepsOrder (p : Party) (spaceId title : String) :
    KeepsOrder a b false (navigate p spaceId title) :=
  have hs (s t : String) (h : _) : KeepsOrder a b false (runCommand p (s ++ t) 2) :=
    runCommand_keepsOrder (hb.not_of_start (prefix_toList_append s t) h) _
  have hc (cmd : String) (h : _) : KeepsOrder a b false (runCommand p cmd 2) :=
    runCommand_keepsOrder (hb.not_of_start (List.prefix_refl cmd.toList) h) _
  keepsOrder_bind (hs "space " spaceId (by decide)) <| .inr fun _ =>
  keepsOrder_bind (hc "channels" (by decide)) <| .inr fun _ =>
  keepsOrder_bind (findInLog_keepsOrder _ _) <| .inr fun _ =>
  keepsOrder_elim (pure_keepsOrder _) (fun channelId =>
    keepsOrder_bind (hs "channel " channelId (by decide)) <| .inr fun _ =>
    keepsOrder_bind (hc "threads" (by decide)) <| .inr fun _ =>
    keepsOrder_bind (findInLog_keepsOrder _ _) <| .inr fun _ =>
    keepsOrder_elim (pure_keepsOrder _) (fun threadId => hs "thread " threadId (by decide)) _) _

end Steps

/-! ### The kick comes first -/

/-- A `kick` command sent to Alice, the owner of the space. -/
def KickSent (p : Party) (cmd : String) : Prop := p = .alice ∧ ∃ id, cmd = "kick " ++ id

/-- Every write of one of the messages `sent` has a `kick` to Alice below it. -/
def KickFirst (sent : List (Party × String)) (es : List Event) : Prop :=
  Precedes KickSent (fun p cmd => (p, cmd) ∈ sent) es

/-- Messages that all start with `send `. -/
theorem sendOrKick_mem {sent : List (Party × String)}
    (h : ∀ m ∈ sent, "send ".toList <+: m.2.toList) : SendOrKick fun p cmd => (p, cmd) ∈ sent :=
  fun _ _ hm => .inl (h _ hm)

/-- A party that sends none of the messages `sent`. -/
theorem not_mem_of_party {sent : List (Party × String)} {p : Party} (h : ∀ m ∈ sent, m.1 ≠ p)
    (cmd : String) : (p, cmd) ∉ sent := fun hm => h _ hm rfl

/-- A command that starts otherwise than each of `p`'s messages `sent`. -/
theorem not_mem_of_start {sent : List (Party × String)} {p : Party} {s cmd : String}
    (hs : s.toList <+: cmd.toList) (h : ∀ m ∈ sent, m.1 = p → ¬ s.toList <+: m.2.toList) :
    (p, cmd) ∉ sent := fun hm => h _ hm rfl hs

/-! ### The kick names a member added before -/

/-- The command line `member add id`, sent to Alice. -/
def AddOf (id : String) (p : Party) (cmd : String) : Prop := p = .alice ∧ cmd = "member add " ++ id

/-- The command line `kick id`, sent to Alice. -/
def KickOf (id : String) (p : Party) (cmd : String) : Prop := p = .alice ∧ cmd = "kick " ++ id

/-- For every user id, each `kick` of it sent to Alice has a `member add` of it sent to her
below it. -/
def KicksAdded (es : List Event) : Prop := ∀ id, Precedes (AddOf id) (KickOf id) es

theorem not_kickOf_of_party {id : String} {p : Party} (hp : p ≠ .alice) (cmd : String) :
    ¬ KickOf id p cmd := fun h => hp h.1

theorem sendOrKick_kickOf (id : String) : SendOrKick (KickOf id) :=
  fun _ _ h => .inr (h.2 ▸ prefix_toList_append _ _)

/-- A command that starts with a text that neither starts `kick ` nor is started by it. -/
theorem not_kickOf_of_start {id s cmd : String} {p : Party} (hs : s.toList <+: cmd.toList)
    (h : ¬ s.toList <+: "kick ".toList ∧ ¬ "kick ".toList <+: s.toList) : ¬ KickOf id p cmd := by
  rintro ⟨-, rfl⟩
  exact (List.prefix_or_prefix_of_prefix hs (prefix_toList_append _ _)).elim h.1 h.2

/-- A `kick` of another id. -/
theorem not_kickOf_of_ne {id x : String} (h : x ≠ id) : ¬ KickOf id .alice ("kick " ++ x) :=
  fun hk => h (String.ext (by simpa using congrArg String.data hk.2))

/-- `member add x`: when `x` is `id`, the instance took an add of `id` once it returns. -/
theorem runCommand_addOf (id x : String) (wait : Nat) :
    KeepsOrder (AddOf id) (KickOf id) (decide (x = id))
      (runCommand .alice ("member add " ++ x) wait) := by
  have hb : ¬ KickOf id .alice ("member add " ++ x) :=
    not_kickOf_of_start (prefix_toList_append _ _) (by decide)
  by_cases h : x = id
  · simpa only [h, decide_True] using runCommand_first ⟨rfl, h ▸ rfl⟩ hb wait
  · simpa only [h, decide_False] using runCommand_keepsOrder hb wait

/-- What follows a `member add x` is looked at only when `x` is not `id`, and knowing it. -/
theorem flag_or_of_ne {x id : String} {Q : Prop} (h : x ≠ id → Q) : decide (x = id) = true ∨ Q :=
  (em (x = id)).imp decide_eq_true h

end SpacewayScenarios
