import CertMint.Proofs.Loading
import CertMint.Proofs.Precedence
import CertMint.Settings.Desk

/-! # The last good settings

A desk answers requests one after the other, and between two of them the files may change in any way. What
it holds in the end, and what it answers whenever it is asked for its settings, can be told from the answers
alone: it is what the last load that succeeded gave.
-/

namespace CertMint.Settings

/-! ## Requests -/

/-- What a desk is asked to do. -/
inductive Request where
  | load (path : String)
  | current
  | review (entries : List (String × Datum))
  | writeDefault (path : String)

inductive Answer where
  | loaded (r : Except Fault Settings)
  | held (r : Except Fault Settings)
  | reviewed (r : Except Fault Review)
  | written (r : Except Fault Unit)

namespace Answer

/-- The settings of a load that succeeded. -/
def good? : Answer → Option Settings
  | .loaded (.ok s) => some s
  | _ => none

end Answer

/-- A request, and what happens to the files before it is made. -/
structure Visit where
  meanwhile : Files.Tree → Files.Tree
  request : Request

namespace Desk

def answer (d : Desk) : Request → Answer × Desk
  | .load path => (d.load path).map .loaded id
  | .current => (.held d.current, d)
  | .review entries => (.reviewed (d.review entries), d)
  | .writeDefault path => (d.writeDefault path).map .written id

def visit (d : Desk) (v : Visit) : Answer × Desk :=
  { d with files := v.meanwhile d.files }.answer v.request

def visits (d : Desk) : List Visit → List Answer × Desk
  | [] => ([], d)
  | v :: rest =>
    let (a, d') := d.visit v
    let (others, d'') := d'.visits rest
    (a :: others, d'')

/-- What was loaded when the desk was set up. -/
def opening (t : Files.Tree) (path : Option String) : List Answer :=
  match path.filter (!·.isEmpty) with
  | none => []
  | some path => [.loaded (Desk.load { files := t } path).1]

end Desk

/-- What the last load that succeeded gave. -/
def lastGood? (answers : List Answer) : Option Settings := (answers.filterMap Answer.good?).getLast?

/-- The answer to who asks for settings that are held, or not. -/
def held : Option Settings → Except Fault Settings
  | some s => .ok s
  | none => .error (.of .value "No configuration loaded. Call load_config() first.")

theorem lastGood?_concat (answers : List Answer) (a : Answer) :
    lastGood? (answers ++ [a]) = a.good?.or (lastGood? answers) := by
  rw [lastGood?, List.filterMap_append]
  cases good : a.good? with
  | none => simp only [List.filterMap_cons_none good, List.filterMap_nil, List.append_nil, lastGood?,
      Option.none_or]
  | some s => simp only [List.filterMap_cons_some good, List.filterMap_nil, List.getLast?_append,
      List.getLast?_singleton, Option.some_or]

namespace Desk

variable {d : Desk}

theorem current_eq_held (d : Desk) : d.current = held d.loaded := by
  rw [current]
  cases d.loaded <;> rfl

theorem load_of_error {path : String} {f : Fault} (failed : (d.load path).1 = .error f) :
    (d.load path).2 = d := by
  unfold load at failed ⊢
  cases loading : Settings.load d.files path with
  | ok loaded =>
      rw [loading] at failed
      cases failed
  | error g => rfl

/-- After a request the desk holds what the request has loaded, or else what it held before. -/
theorem loaded_answer (d : Desk) (r : Request) :
    (d.answer r).2.loaded = (d.answer r).1.good?.or d.loaded := by
  cases r with
  | load path =>
      rw [answer, load]
      cases Settings.load d.files path <;> rfl
  | current => rfl
  | review entries => rfl
  | writeDefault path =>
      rw [answer, writeDefault]
      rcases (Settings.writeDefault path).run d.files with ⟨_ | _, files⟩ <;> rfl

theorem loaded_visit (d : Desk) (v : Visit) :
    (d.visit v).2.loaded = (d.visit v).1.good?.or d.loaded := loaded_answer _ v.request

theorem current_visit {v : Visit} (nothing : (d.visit v).1.good? = none) :
    (d.visit v).2.current = d.current := by
  rw [current_eq_held, loaded_visit, nothing, Option.none_or, ← current_eq_held]

theorem eq_held_of_visit {v : Visit} {r : Except Fault Settings} (asked : (d.visit v).1 = .held r) :
    r = held d.loaded := by
  cases request : v.request with
  | current =>
      rw [visit, request] at asked
      obtain rfl := Answer.held.inj asked
      exact current_eq_held _
  | load path =>
      rw [visit, request, answer, Prod.map_fst] at asked
      cases asked
  | review entries =>
      rw [visit, request] at asked
      cases asked
  | writeDefault path =>
      rw [visit, request, answer, Prod.map_fst] at asked
      cases asked

/-! ## Sequences of requests -/

section

variable {prior : List Answer}

theorem loaded_visit_of_prior (holds : d.loaded = lastGood? prior) (v : Visit) :
    (d.visit v).2.loaded = lastGood? (prior ++ [(d.visit v).1]) := by
  rw [loaded_visit, holds, lastGood?_concat]

/-- A desk that holds what was loaded last still does so after visits. -/
theorem loaded_visits (vs : List Visit) (holds : d.loaded = lastGood? prior) :
    (d.visits vs).2.loaded = lastGood? (prior ++ (d.visits vs).1) := by
  -- each visit adds its answer to what was answered before
  induction vs generalizing d prior with
  | nil => rw [visits, List.append_nil, holds]
  | cons v rest ih =>
      rw [visits, ih (loaded_visit_of_prior holds v), List.append_assoc, List.singleton_append]

/-- Whenever it is asked on the way, it answers with what was loaded last until then. -/
theorem eq_held_of_visits {vs : List Visit} (holds : d.loaded = lastGood? prior)
    {earlier later : List Answer} {r : Except Fault Settings}
    (answers : (d.visits vs).1 = earlier ++ .held r :: later) : r = held (lastGood? (prior ++ earlier)) := by
  induction vs generalizing d prior earlier with
  | nil => exact absurd answers.symm (List.append_ne_nil_of_right_ne_nil _ (List.cons_ne_nil _ _))
  | cons v rest ih =>
      rw [visits] at answers
      cases earlier with
      | nil =>
          rw [eq_held_of_visit (List.cons.inj answers).1, holds, List.append_nil]
      | cons a earlier =>
          obtain ⟨first, others⟩ := List.cons.inj answers
          rw [ih (loaded_visit_of_prior holds v) others, first, List.append_assoc, List.singleton_append]

end

theorem loaded_of_restart {t : Files.Tree} {path : Option String}
    (opened : Desk.restart { files := t } path = (.ok (), d)) : d.loaded = lastGood? (opening t path) := by
  unfold restart at opened
  unfold opening
  cases given : path.filter (!·.isEmpty) with
  | none =>
      rw [given] at opened
      exact congrArg loaded (Prod.mk.inj opened).2.symm
  | some path =>
      rw [given] at opened
      dsimp only at opened ⊢
      have holds : (Desk.load { files := t } path).2.loaded =
          (Answer.loaded (Desk.load { files := t } path).1).good?.or none :=
        loaded_answer { files := t } (.load path)
      rcases loading : Desk.load { files := t } path with ⟨f | s, d'⟩
      · rw [loading] at opened
        cases (Prod.mk.inj opened).1
      · rw [loading] at opened holds
        rw [← (Prod.mk.inj opened).2]
        exact holds

/-- A desk that was set up keeps the last good settings through any sequence of requests, whatever happens
    to the files: it answers with what the last load that succeeded gave, the one when it was set up
    included, and says that there is nothing if there was none. A load that fails leaves the desk as it is,
    and whatever else is not a load that succeeds leaves what it answers. -/
theorem current_eq_lastGood {t : Files.Tree} {path : Option String}
    (opened : Desk.restart { files := t } path = (.ok (), d)) (vs : List Visit) :
    (d.visits vs).2.current = held (lastGood? (opening t path ++ (d.visits vs).1)) ∧
      (∀ earlier r later, (d.visits vs).1 = earlier ++ .held r :: later →
        r = held (lastGood? (opening t path ++ earlier))) ∧
      (∀ (d : Desk) path f, (d.load path).1 = .error f → (d.load path).2 = d) ∧
      ∀ (d : Desk) v, (d.visit v).1.good? = none → (d.visit v).2.current = d.current := by
  have holds := loaded_of_restart opened
  refine ⟨?_, fun earlier r later => eq_held_of_visits holds, fun d path f => load_of_error,
    fun d v => current_visit⟩
  rw [current_eq_held, loaded_visits vs holds]

/-- A desk was set up with a file. Then a reference in the file cannot be resolved, then the file is gone,
    and then there is another one in its place, which nobody has loaded. -/
theorem current_eq_lastGood_overruled :
    ∃ d s, Desk.restart { files := overruledTree } (some "c.ini") = (.ok (), d) ∧
      s.keySize.int? = some 2048 ∧
      (d.visits [⟨fun _ => strayTree, .load "c.ini"⟩, ⟨fun _ => .empty, .load "c.ini"⟩,
        ⟨id, .writeDefault "c.ini"⟩]).2.current = .ok s := by
  obtain ⟨s, notes, loading, size⟩ : ∃ s notes, Settings.load overruledTree "c.ini" = .ok (s, notes) ∧
      s.keySize.int? = some 2048 := by
    have sizes := keysOfLoad_overruled
    unfold keysOfLoad at sizes
    split at sizes
    · next s notes loading =>
        exact ⟨s, notes, loading, (Prod.mk.inj (Option.some.inj sizes)).1⟩
    · cases sizes
  have given : (some "c.ini").filter (fun path : String => !path.isEmpty) = some "c.ini" := by decide
  have first : Desk.load { files := overruledTree } "c.ini" =
      (.ok s, { files := overruledTree, loaded := some s, notes := [] ++ notes }) := by
    rw [Desk.load, loading]
  have opened : Desk.restart { files := overruledTree } (some "c.ini") =
      (.ok (), { files := overruledTree, loaded := some s, notes := [] ++ notes }) := by
    rw [restart, given]
    dsimp only
    rw [first]
  have fails (t : Files.Tree) (failing : keysOfLoad t "c.ini" = none) (d : Desk) :
      (d.visit ⟨fun _ => t, .load "c.ini"⟩).1.good? = none := by
    unfold keysOfLoad at failing
    split at failing
    · cases failing
    · next f failed =>
        simp only [visit, answer, Desk.load, failed]
        rfl
  have last (d : Desk) : (d.visit ⟨id, .writeDefault "c.ini"⟩).1.good? = none := rfl
  refine ⟨_, s, opened, size, ?_⟩
  rw [(current_eq_lastGood opened _).1, opening, given]
  dsimp only
  rw [first]
  simp only [visits, lastGood?, List.singleton_append]
  rw [List.filterMap_cons_some (show (Answer.loaded (.ok s)).good? = some s from rfl),
    List.filterMap_cons_none (fails _ (by decide +kernel) _),
    List.filterMap_cons_none (fails _ (by decide +kernel) _), List.filterMap_cons_none (last _)]
  rfl

end Desk

end CertMint.Settings
