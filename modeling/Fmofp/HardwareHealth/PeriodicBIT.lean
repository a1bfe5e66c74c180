import Fmofp.Machine.History
import Fmofp.Python.Dict
import Fmofp.Python.Text

/-! The built-in tests that are run on a schedule.  A call runs the tests that are due and files the results by
the ids of the tests; what it files under an id is all that the call has found so far, not only what the test
itself has found. -/

namespace Fmofp.HardwareHealth

open Python Machine

inductive BITStatus
  | pass
  | fail
  | abort
  | pending
  deriving Repr, DecidableEq

structure BITResult where
  testId : String
  component : String
  status : BITStatus
  detail : String
  deriving Repr, DecidableEq

/-- What a probe meets: what the accessor of a live system says of `running`, or the text of what it raises, and
whether the draw for the other systems is under the fault rate. -/
structure Reply where
  running : Except String Bool := .ok true
  fault : Bool := false

/-- The systems with an accessor, with the detail of a failure. -/
def notRunning? (systemName : String) : Option String :=
  if systemName ∈ ["flightControlComputer", "flightControlSys"] then some "FCC not running"
  else if systemName ∈ ["navigationSystem", "navService"] then some "NavService not running"
  else if systemName = "missionComputer" then some "MissionService not running"
  else if systemName ∈ ["datalink", "satcom", "radios"] then some s!"Comms ({systemName}) not running"
  else if systemName = "radarSystem" then some "RadarManagement not running"
  else none

/-- `_probe_system`, with the id that its caller gives to the result. -/
def probeSystem (reply : Reply) (testId systemName component : String) : BITResult :=
  match notRunning? systemName with
  | none =>
    if reply.fault then ⟨testId, component, .fail, s!"simulated fault in {component}"⟩
    else ⟨testId, component, .pass, "nominal"⟩
  | some detail =>
    match reply.running with
    | .error text => ⟨testId, component, .abort, slice text 0 80⟩
    | .ok true => ⟨testId, component, .pass, "nominal"⟩
    | .ok false => ⟨testId, component, .fail, detail⟩

theorem probeSystem_testId (reply : Reply) (testId systemName component : String) :
    (probeSystem reply testId systemName component).testId = testId := by
  unfold probeSystem
  split
  · split <;> rfl
  · split <;> rfl

structure PeriodicTest where
  id : String := "UNKNOWN"
  systems : List String := []
  interval : ℤ := 90

structure PeriodicBIT where
  results : Dict String (List BITResult)
  lastRun : Dict String ℚ

/-- A call: the clock, the tests of the catalogue, and what each of the probes of the call meets. -/
structure Call where
  now : ℚ
  periodicTests : List PeriodicTest
  replies : ℕ → Reply

def isDue (lastRun : Dict String ℚ) (now : ℚ) (test : PeriodicTest) : Bool :=
  !decide (now - Dict.getD lastRun test.id 0 < test.interval * 60)

/-- The probes of a test, the first of them the probe `n` of the call. -/
def probeSystems (replies : ℕ → Reply) (testId : String) : ℕ → List String → List BITResult
  | _, [] => []
  | n, system :: systems =>
    probeSystem (replies n) testId system system :: probeSystems replies testId (n + 1) systems

namespace PeriodicBIT

def new : PeriodicBIT := ⟨[], []⟩

/-- What is filed under an id. -/
def filed (bit : PeriodicBIT) (testId : String) : List BITResult := Dict.getD bit.results testId []

/-- `get_results`; the empty id asks for everything. -/
def getResults (bit : PeriodicBIT) : Option String → List BITResult
  | none => (bit.results.map Prod.snd).flatten
  | some testId => if testId = "" then (bit.results.map Prod.snd).flatten else bit.filed testId

/-- What is filed and noted after a test that has run. -/
def file (bit : PeriodicBIT) (now : ℚ) (testId : String) (newResults : List BITResult) : PeriodicBIT where
  results := Dict.set bit.results testId (bit.filed testId ++ newResults)
  lastRun := Dict.set bit.lastRun testId now

/-- The loop of `run_due`, with the results that the call has found so far. -/
def runTests (now : ℚ) (replies : ℕ → Reply) :
    PeriodicBIT → List BITResult → List PeriodicTest → List BITResult × PeriodicBIT
  | bit, newResults, [] => (newResults, bit)
  | bit, newResults, test :: tests =>
    if isDue bit.lastRun now test then
      let newResults := newResults ++ probeSystems replies test.id newResults.length test.systems
      runTests now replies (bit.file now test.id newResults) newResults tests
    else runTests now replies bit newResults tests

def runDue (bit : PeriodicBIT) (call : Call) : List BITResult × PeriodicBIT :=
  runTests call.now call.replies bit [] call.periodicTests

/-- The tests that a call finds due; one that has run in the call is not due in it again, unless its interval is
not positive. -/
def dueTests (now : ℚ) : Dict String ℚ → List PeriodicTest → List PeriodicTest
  | _, [] => []
  | lastRun, test :: tests =>
    if isDue lastRun now test then test :: dueTests now (Dict.set lastRun test.id now) tests
    else dueTests now lastRun tests

/-- No test is due after one that probes a system. -/
def DueAlone (bit : PeriodicBIT) (call : Call) : Prop :=
  ∀ test ∈ (dueTests call.now bit.lastRun call.periodicTests).dropLast, test.systems = []

instance (bit : PeriodicBIT) (call : Call) : Decidable (DueAlone bit call) :=
  inferInstanceAs
    (Decidable (∀ test ∈ (dueTests call.now bit.lastRun call.periodicTests).dropLast, test.systems = []))

/-! ### One call -/

/-- The results of an id among those that a call returns. -/
def told (newResults : List BITResult) (testId : String) : List BITResult :=
  newResults.filter fun result => decide (result.testId = testId)

theorem told_append (as bs : List BITResult) (testId : String) :
    told (as ++ bs) testId = told as testId ++ told bs testId := List.filter_append _ _

theorem told_probeSystems (replies : ℕ → Reply) (testId : String) (n : ℕ) (systems : List String) (k : String) :
    told (probeSystems replies testId n systems) k =
      if testId = k then probeSystems replies testId n systems else [] := by
  induction systems generalizing n with
  | nil => simp [probeSystems, told]
  | cons system systems ih =>
    have hrest := ih (n + 1)
    simp only [told] at hrest ⊢
    rw [probeSystems, List.filter_cons, hrest, probeSystem_testId]
    by_cases hk : testId = k <;> simp [hk]

theorem filed_file (bit : PeriodicBIT) (now : ℚ) (testId : String) (newResults : List BITResult) (k : String) :
    (bit.file now testId newResults).filed k =
      if testId = k then bit.filed k ++ newResults else bit.filed k := by
  by_cases hk : testId = k
  · subst hk
    rw [if_pos rfl]
    exact Dict.getD_set_self _ _ _ _
  · rw [if_neg hk]
    exact Dict.getD_set_ne _ hk _ _

section Loop

variable (now : ℚ) (replies : ℕ → Reply)

theorem runTests_of_not_due (bit : PeriodicBIT) (newResults : List BITResult) {tests : List PeriodicTest}
    (hdue : dueTests now bit.lastRun tests = []) :
    runTests now replies bit newResults tests = (newResults, bit) := by
  induction tests with
  | nil => rfl
  | cons test tests ih =>
    unfold dueTests at hdue
    unfold runTests
    by_cases h : isDue bit.lastRun now test = true
    · rw [if_pos h] at hdue
      exact absurd hdue (List.cons_ne_nil _ _)
    · rw [if_neg h] at hdue ⊢
      exact ih hdue

/-- A test that is filed brings what the call has found before it into its file, besides its own results. -/
theorem filed_file_length (bit : PeriodicBIT) (testId : String) (newResults own : List BITResult) (k : String)
    (hown : told own k = if testId = k then own else []) :
    ((bit.file now testId (newResults ++ own)).filed k).length + (told newResults k).length =
      (bit.filed k).length + (told (newResults ++ own) k).length +
        if testId = k then newResults.length else 0 := by
  rw [filed_file, told_append, hown]
  by_cases hk : testId = k
  · simp only [if_pos hk, List.length_append]
    omega
  · simp only [if_neg hk, List.append_nil, Nat.add_zero]

/-- A call never files less under an id than it found for it. -/
theorem filed_runTests_length (bit : PeriodicBIT) (newResults : List BITResult) (tests : List PeriodicTest)
    (k : String) :
    (bit.filed k).length + (told (runTests now replies bit newResults tests).1 k).length ≤
      ((runTests now replies bit newResults tests).2.filed k).length + (told newResults k).length := by
  induction tests generalizing bit newResults with
  | nil => exact le_rfl
  | cons test tests ih =>
    unfold runTests
    by_cases h : isDue bit.lastRun now test = true
    · rw [if_pos h]
      have hfirst := filed_file_length now bit test.id newResults _ k
        (told_probeSystems replies test.id newResults.length test.systems k)
      have hrest := ih (bit.file now test.id
        (newResults ++ probeSystems replies test.id newResults.length test.systems))
        (newResults ++ probeSystems replies test.id newResults.length test.systems)
      simp only at hrest ⊢
      omega
    · rw [if_neg h]
      exact ih bit newResults

/-- A test that is due after some result of the call files that result too. -/
theorem filed_runTests_excess (bit : PeriodicBIT) {newResults : List BITResult} {tests : List PeriodicTest}
    (hfound : newResults ≠ []) (hdue : dueTests now bit.lastRun tests ≠ []) :
    ∃ k, (bit.filed k).length + (told (runTests now replies bit newResults tests).1 k).length <
      ((runTests now replies bit newResults tests).2.filed k).length + (told newResults k).length := by
  induction tests with
  | nil => exact absurd rfl hdue
  | cons test tests ih =>
    unfold dueTests at hdue
    unfold runTests
    by_cases h : isDue bit.lastRun now test = true
    · rw [if_pos h]
      have hfirst := filed_file_length now bit test.id newResults _ test.id
        (told_probeSystems replies test.id newResults.length test.systems test.id)
      have hrest := filed_runTests_length now replies (bit.file now test.id
        (newResults ++ probeSystems replies test.id newResults.length test.systems))
        (newResults ++ probeSystems replies test.id newResults.length test.systems) tests test.id
      have hpositive := List.length_pos_of_ne_nil hfound
      rw [if_pos rfl] at hfirst
      refine ⟨test.id, ?_⟩
      simp only at hrest ⊢
      omega
    · rw [if_neg h] at hdue ⊢
      exact ih hdue

end Loop

/-- A call in which no test is due after one that probes a system files what it found, and nothing else. -/
theorem filed_runDue (bit : PeriodicBIT) {call : Call} (halone : bit.DueAlone call) (k : String) :
    (bit.runDue call).2.filed k = bit.filed k ++ told (bit.runDue call).1 k := by
  obtain ⟨now, tests, replies⟩ := call
  simp only [DueAlone, runDue] at halone ⊢
  induction tests generalizing bit with
  | nil => exact (List.append_nil _).symm
  | cons test tests ih =>
    unfold dueTests at halone
    unfold runTests
    by_cases h : isDue bit.lastRun now test = true
    · rw [if_pos h] at halone ⊢
      simp only [List.nil_append, List.length_nil]
      by_cases hlast : dueTests now (Dict.set bit.lastRun test.id now) tests = []
      · -- The last test that is due: what it finds is all that the call finds.
        rw [runTests_of_not_due now replies (bit.file now test.id _) _ hlast, filed_file, told_probeSystems]
        by_cases hk : test.id = k
        · rw [if_pos hk, if_pos hk]
        · rw [if_neg hk, if_neg hk, List.append_nil]
      · rw [List.dropLast_cons_of_ne_nil hlast] at halone
        have hnone : test.systems = [] := halone test (by simp)
        have hrest := ih (bit.file now test.id []) fun t ht => halone t (List.mem_cons_of_mem _ ht)
        rw [hnone, probeSystems, hrest, filed_file]
        simp
    · rw [if_neg h] at halone ⊢
      exact ih bit halone

/-- A call in which a test is due after one that probes a system files too much under some id. -/
theorem filed_runDue_excess (bit : PeriodicBIT) {call : Call} (hlate : ¬bit.DueAlone call) :
    ∃ k, (bit.filed k).length + (told (bit.runDue call).1 k).length < ((bit.runDue call).2.filed k).length := by
  obtain ⟨now, tests, replies⟩ := call
  simp only [DueAlone, runDue] at hlate ⊢
  induction tests generalizing bit with
  | nil => exact absurd (fun t ht => absurd ht (List.not_mem_nil)) hlate
  | cons test tests ih =>
    unfold dueTests at hlate
    unfold runTests
    by_cases h : isDue bit.lastRun now test = true
    · rw [if_pos h] at hlate ⊢
      simp only [List.nil_append, List.length_nil]
      have hne : dueTests now (Dict.set bit.lastRun test.id now) tests ≠ [] := by
        rintro hnone
        rw [hnone] at hlate
        exact hlate fun t ht => absurd ht (List.not_mem_nil)
      rw [List.dropLast_cons_of_ne_nil hne] at hlate
      cases hsystems : test.systems with
      | nil =>
        obtain ⟨k, hk⟩ := ih (bit.file now test.id []) fun halone => hlate fun t ht => by
          rcases List.mem_cons.mp ht with rfl | ht
          · exact hsystems
          · exact halone t ht
        rw [filed_file, List.append_nil, ite_self] at hk
        exact ⟨k, hk⟩
      | cons system systems =>
        have hfound : probeSystems replies test.id 0 (system :: systems) ≠ [] := List.cons_ne_nil _ _
        obtain ⟨k, hk⟩ := filed_runTests_excess now replies
          (bit.file now test.id (probeSystems replies test.id 0 (system :: systems))) hfound hne
        have hfirst := filed_file_length now bit test.id [] _ k
          (told_probeSystems replies test.id 0 (system :: systems) k)
        refine ⟨k, ?_⟩
        simp only [List.nil_append, List.length_nil, ite_self, told, List.filter_nil] at hfirst hk ⊢
        omega
    · rw [if_neg h] at hlate ⊢
      exact ih bit hlate

/-! ### Every run -/

/-- The files are, id for id, what the calls of the run have returned, if and only if in no call a test was due
after one that probes a system. -/
theorem filed_iff_due_alone (calls : List Call) :
    (∀ testId, (final runDue new calls).filed testId =
        (answers runDue new calls).filter fun result => decide (result.testId = testId)) ↔
      Along runDue DueAlone new calls := by
  refine accounts_iff_along filed told DueAlone (fun _ => rfl) told_append ?_ ?_ ?_ new calls
  · exact fun bit _ halone k => filed_runDue bit halone k
  · exact fun bit call k => filed_runTests_length call.now call.replies bit [] call.periodicTests k
  · exact fun bit _ hlate => filed_runDue_excess bit hlate

end PeriodicBIT

end Fmofp.HardwareHealth
