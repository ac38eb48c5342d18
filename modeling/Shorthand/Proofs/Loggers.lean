import Mathlib
import Shorthand.Log

/-! The loggers over any run of calls. Asking for a logger leaves the root logger alone, a level that is
not known changes nothing, and every other call sets the level and puts one handler in the place of the
last one. So the root logger shows its records through one handler from the first level on. -/
namespace Shorthand.Log
variable {name level : Text} {logger root : Logger} {r : Registry} {number : Nat}

section Names

lemma loggerName_of_below (h : rootName ++ ['.'] <+: name) : loggerName name = name := by
  have hstarts : Text.startsWith (rootName ++ ['.']) name = true := List.isPrefixOf_iff_prefix.mpr h
  rw [loggerName, hstarts, Bool.or_true, if_pos rfl]

lemma loggerName_root : loggerName rootName = rootName := by
  rw [loggerName, beq_self_eq_true, Bool.true_or, if_pos rfl]

/-- Every logger is the root logger or one below it. -/
lemma loggerName_cases (name : Text) :
    loggerName name = rootName ∨ rootName ++ ['.'] <+: loggerName name := by
  rw [loggerName]
  split_ifs with h
  · rw [Bool.or_eq_true, beq_iff_eq] at h
    exact h.imp_right List.isPrefixOf_iff_prefix.mp
  · exact .inr ⟨name, by rw [List.append_assoc, List.singleton_append]⟩

/-- The name that was asked for stands at the end of the logger's name. -/
lemma suffix_loggerName (name : Text) : name <:+ loggerName name := by
  rw [loggerName]
  split_ifs
  · exact List.suffix_rfl
  · exact ⟨rootName ++ ['.'], by rw [List.append_assoc, List.singleton_append]⟩

lemma loggerName_loggerName (name : Text) : loggerName (loggerName name) = loggerName name := by
  rcases loggerName_cases name with h | h
  · rw [h, loggerName_root]
  · exact loggerName_of_below h

/-- The levels can be asked for by their names. -/
lemma threshold?_level (l : Level) : threshold? (Text.upper l.name) = some l.number := by
  cases l <;> decide +kernel

end Names

/-- A logger with this level and one handler in the place of those that show its records. -/
def Logger.renewed (logger : Logger) (number : Nat) : Logger :=
  ⟨number, logger.handlers.filter (· != .console) ++ [.console]⟩

namespace Registry

lemma require_of_some (h : r.find? name = some logger) : r.require name = r := by
  rw [require, h, Option.isSome_some, if_pos rfl]

lemma find?_require_self (r : Registry) (name : Text) :
    (r.require name).find? name = some ((r.find? name).getD {}) := by
  cases h : r.find? name with
  | none =>
    rw [find?] at h
    simp [require, find?, List.lookup_append, h]
  | some logger => rw [require_of_some h, h, Option.getD_some]

/-- Making a logger changes none that is there. -/
lemma find?_require (h : r.find? name = some logger) (other : Text) :
    (r.require other).find? name = some logger := by
  rw [require]
  split_ifs
  · exact h
  · rw [find?] at h ⊢
    rw [List.lookup_append, h, Option.some_or]

lemma find?_modify (h : r.find? name = some logger) (change : Logger → Logger) :
    (r.modify name change).find? name = some (change logger) := by
  obtain ⟨loggers⟩ := r
  simp only [find?, modify] at h ⊢
  induction loggers with
  | nil => cases h
  | cons entry loggers ih =>
    obtain ⟨first, found⟩ := entry
    rw [List.map_cons]
    by_cases hname : first = name
    · subst hname
      rw [List.lookup_cons_self, Option.some.injEq] at h
      rw [if_pos (beq_self_eq_true _), List.lookup_cons_self, h]
    · have hne : (name == first) = false := by simpa using fun heq => hname heq.symm
      have hne' : (first == name) = false := by simpa using hname
      rw [List.lookup_cons, hne] at h
      rw [if_neg (by simp [hne']), List.lookup_cons, hne]
      exact ih h

/-- Asking for a logger again by its own name changes nothing. -/
lemma get_get (r : Registry) (name : Text) : (r.get name).1.get (r.get name).2 = r.get name := by
  have hfound := find?_require_self r (loggerName name)
  simp only [get, loggerName_loggerName]
  rw [require_of_some hfound]

lemma configure_of_unknown (hroot : r.find? rootName = some root)
    (h : threshold? (Text.upper level) = none) :
    r.configure level = (r, .error ⟨Text.upper level⟩) := by
  simp only [configure, require_of_some hroot, h]

lemma configure_of_known (hroot : r.find? rootName = some root)
    (h : threshold? (Text.upper level) = some number) :
    (r.configure level).2 = .ok rootName ∧
      (r.configure level).1.find? rootName = some (root.renewed number) := by
  simp only [configure, require_of_some hroot, h]
  exact ⟨trivial, find?_modify (find?_modify (find?_modify hroot _) _) _⟩

end Registry

/-- The number of the level that a call sets, if it succeeds in setting one. -/
def Call.setting? : Call → Option Nat
  | .get _ => none
  | .configure level => threshold? (Text.upper level)

/-- The root logger after calls that set these levels. -/
def Logger.rootAfter (settings : List Nat) : Logger :=
  ⟨settings.getLast?.getD 0, if settings = [] then [.silent] else [.silent, .console]⟩

/-- The handler that the first setting adds is replaced by each later one. -/
lemma Logger.renewed_rootAfter (settings : List Nat) (number : Nat) :
    (rootAfter settings).renewed number = rootAfter (settings ++ [number]) := by
  have hhandlers : (if settings = [] then [Handler.silent] else [.silent, .console]).filter
      (· != .console) = [.silent] := by
    split_ifs <;> rfl
  simp [renewed, rootAfter, hhandlers]

namespace Registry

/-- Carry out calls one after another. -/
def run (r : Registry) (calls : List Call) : Registry := calls.foldl (fun r call => (r.step call).1) r

lemma run_concat (r : Registry) (calls : List Call) (call : Call) :
    r.run (calls ++ [call]) = ((r.run calls).step call).1 := by
  rw [run, List.foldl_concat]
  rfl

/-- What one call does to the root logger. -/
lemma find?_step (hroot : r.find? rootName = some root) (call : Call) :
    (r.step call).1.find? rootName = some (call.setting?.elim root root.renewed) := by
  cases call with
  | get name => exact find?_require hroot _
  | configure level =>
    rw [step, Call.setting?]
    cases h : threshold? (Text.upper level) with
    | none =>
      rw [configure_of_unknown hroot h]
      exact hroot
    | some number => exact (configure_of_known hroot h).2

/-- What a run of calls does to it. -/
theorem find?_run (calls : List Call) :
    (initial.run calls).find? rootName = some (.rootAfter (calls.filterMap Call.setting?)) := by
  -- From the end, since a call acts on what the calls before it left.
  induction calls using List.reverseRecOn with
  | nil => exact List.lookup_cons_self
  | append_singleton calls call ih =>
    rw [run_concat, find?_step ih, List.filterMap_append]
    cases hset : call.setting? with
    | none => rw [List.filterMap_cons_none hset, List.filterMap_nil, List.append_nil, Option.elim_none]
    | some number =>
      rw [List.filterMap_cons_some hset, List.filterMap_nil, Option.elim_some,
        Logger.renewed_rootAfter]

/-- After any run of calls, the root logger has the level of the last call that set one, no handler that
shows its records before the first such call, and exactly one from then on. A call with a level that is
not known fails and changes nothing. Asking for a logger does not change the root logger and leads to it
or to a logger below it whose name ends in the one asked for, and asking again by the name of this logger
leads to the same one. -/
theorem loggers_are_stable_over_runs (calls : List Call) :
    let r := initial.run calls
    let settings := calls.filterMap Call.setting?
    (∃ root, r.find? rootName = some root ∧ root.level = settings.getLast?.getD 0 ∧
      root.handlers.count .console = if settings = [] then 0 else 1) ∧
      (∀ level, threshold? (Text.upper level) = none →
        r.configure level = (r, .error ⟨Text.upper level⟩)) ∧
      (∀ level number, threshold? (Text.upper level) = some number →
        (r.configure level).2 = .ok rootName) ∧
      (∀ l : Level, threshold? (Text.upper l.name) = some l.number) ∧
      ∀ name, (r.get name).1.find? rootName = r.find? rootName ∧
        ((r.get name).2 = rootName ∨ rootName ++ ['.'] <+: (r.get name).2) ∧
        name <:+ (r.get name).2 ∧
        ((r.get name).1.find? (r.get name).2).isSome ∧
        (r.get name).1.get (r.get name).2 = r.get name := by
  intro r settings
  have hroot : r.find? rootName = some (.rootAfter settings) := find?_run calls
  refine ⟨⟨_, hroot, rfl, ?_⟩, fun level => configure_of_unknown hroot,
    fun level number h => (configure_of_known hroot h).1, threshold?_level,
    fun name => ⟨?_, loggerName_cases name, suffix_loggerName name, ?_, get_get r name⟩⟩
  · rw [Logger.rootAfter]
    split_ifs <;> rfl
  · rw [hroot]
    exact find?_require hroot _
  · rw [get, find?_require_self, Option.isSome_some]

/-- Settings with a level that is not known between them, and requests around them. -/
def sampleCalls : List Call :=
  [.get "cli".toList, .configure "Debug".toList, .configure "chatty".toList, .get rootName,
    .configure "warn".toList, .get "autotyper.cli".toList]

/-- The second setting replaces the handler of the first one, and nothing else counts. -/
theorem loggers_are_stable_over_sample_run :
    (∃ root, (initial.run sampleCalls).find? rootName = some root ∧ root.level = 30 ∧
      root.handlers.count .console = 1) ∧
      (initial.run sampleCalls).configure "trace".toList =
        (initial.run sampleCalls, .error ⟨"TRACE".toList⟩) ∧
      ((initial.run sampleCalls).configure "fatal".toList).2 = .ok rootName ∧
      ((initial.run sampleCalls).get "autotyperx".toList).1.find? rootName =
        (initial.run sampleCalls).find? rootName := by
  obtain ⟨⟨root, hroot, hlevel, hcount⟩, hunknown, hknown, -, hget⟩ :=
    loggers_are_stable_over_runs sampleCalls
  have hupper : Text.upper "trace".toList = "TRACE".toList := by decide +kernel
  refine ⟨⟨root, hroot, hlevel.trans (by decide +kernel), hcount.trans (by decide +kernel)⟩, ?_,
    hknown _ 50 (by decide +kernel), (hget _).1⟩
  rw [hunknown _ (by decide +kernel), hupper]

end Registry
end Shorthand.Log
