import Mathlib.Data.List.DropRight
import Mathlib.Tactic.Common
import PipeShell.Search.Cache

/-!
# What the cache remembers

Look-ups are made one after the other, and between them anyone may change the files and the working
directory. Those that search are split into spells, in which the search path stays the same. Within
a spell a name is searched for once, and every later look-up of it gets the answer of that time,
also if nothing was found. A spell is over as soon as the search path differs; if an old search path
comes back, a new spell begins.

Empty names and names with a slash do not search. They belong to no spell and end none.
-/

namespace PipeShell.Search

structure Query where
  files : Files
  searchPath : String
  name : String
  deriving DecidableEq

namespace Query

def searches (q : Query) : Bool := !q.name.isEmpty && !hasSlash q.name

def found (q : Query) : Option String := find? q.files q.searchPath q.name

theorem searches_iff (q : Query) :
    q.searches = true ↔ q.name.isEmpty = false ∧ hasSlash q.name = false := by
  simp [searches]

end Query

/-- The spell of a search path that reaches up to the present: the longest run of searches at the
end that all have this search path. -/
def spell (path : String) (past : List Query) : List Query :=
  (past.filter Query.searches).rtakeWhile (·.searchPath = path)

/-- The earliest look-up of the name of `q` in the spell of `q`. It may be `q` itself. -/
def firstAsked (past : List Query) (q : Query) : Query :=
  ((spell q.searchPath past).find? (·.name = q.name)).getD q

section Spell

variable (path : String) (past : List Query) {q : Query}

theorem spell_concat_of_not_searches (hq : q.searches = false) :
    spell path (past ++ [q]) = spell path past := by
  simp [spell, List.filter_append, hq]

theorem spell_concat_self (hq : q.searches = true) :
    spell q.searchPath (past ++ [q]) = spell q.searchPath past ++ [q] := by
  simp [spell, List.filter_append, hq]

variable {path} in
theorem spell_concat_other (hq : q.searches = true) (hne : q.searchPath ≠ path) :
    spell path (past ++ [q]) = [] := by
  simp [spell, List.filter_append, hq, hne]

end Spell

namespace Cache

def answer (c : Cache) (q : Query) : Option String := (c.lookup q.files q.searchPath q.name).1

def after (c : Cache) (q : Query) : Cache := (c.lookup q.files q.searchPath q.name).2

def answers (c : Cache) : List Query → List (Option String)
  | [] => []
  | q :: qs => c.answer q :: (c.after q).answers qs

/-- The cache knows the names that were looked up in the spell of the search path, each with what
was found then. -/
def Remembers (c : Cache) (past : List Query) : Prop :=
  ∀ path name, (c.forPath path).entries.lookup name =
    ((spell path past).find? (·.name = name)).map Query.found

section Lookup

variable (c : Cache) {q : Query}

theorem lookup_of_not_searches (hq : q.searches = false) :
    c.after q = c ∧
      c.answer q = if q.name.isEmpty then none else direct? q.files q.name := by
  unfold after answer lookup
  cases he : q.name.isEmpty with
  | true => exact ⟨rfl, rfl⟩
  | false =>
    have hs : hasSlash q.name = true := by simpa [Query.searches, he] using hq
    simp [hs]

theorem lookup_of_known (hq : q.searches = true) {found : Option String}
    (hf : (c.forPath q.searchPath).entries.lookup q.name = some found) :
    c.after q = c.forPath q.searchPath ∧ c.answer q = found := by
  obtain ⟨he, hs⟩ := q.searches_iff.1 hq
  simp [after, answer, lookup, he, hs, hf]

theorem lookup_of_new (hq : q.searches = true)
    (hf : (c.forPath q.searchPath).entries.lookup q.name = none) :
    c.after q = ⟨(c.forPath q.searchPath).searchPath,
        (q.name, q.found) :: (c.forPath q.searchPath).entries⟩ ∧
      c.answer q = q.found := by
  obtain ⟨he, hs⟩ := q.searches_iff.1 hq
  simp [after, answer, lookup, he, hs, hf, Query.found]

theorem forPath_of_eq {path : String} (h : c.searchPath = path) : c.forPath path = c := by
  rw [forPath, if_pos h.symm]

theorem forPath_of_ne {path : String} (h : c.searchPath ≠ path) : c.forPath path = ⟨path, []⟩ := by
  rw [forPath, if_neg (Ne.symm h)]

theorem searchPath_after (hq : q.searches = true) : (c.after q).searchPath = q.searchPath := by
  cases hf : (c.forPath q.searchPath).entries.lookup q.name with
  | some found => rw [(c.lookup_of_known hq hf).1, searchPath_forPath]
  | none => rw [(c.lookup_of_new hq hf).1, searchPath_forPath]

end Lookup

inductive Gives (c : Cache) (q : Query) : Option String → Prop
  | empty (hn : q.name.isEmpty = true) : Gives c q none
  | path (hs : hasSlash q.name = true) :
      Gives c q (if q.files.isExecutable q.name then some q.name else none)
  | remembered {found : Option String} (hq : q.searches = true)
      (hp : c.searchPath = q.searchPath) (hl : c.entries.lookup q.name = some found) :
      Gives c q found
  | searched (hq : q.searches = true)
      (hl : c.searchPath = q.searchPath → c.entries.lookup q.name = none) : Gives c q q.found

theorem gives_answer (c : Cache) (q : Query) : c.Gives q (c.answer q) := by
  cases hq : q.searches with
  | false =>
    rw [(c.lookup_of_not_searches hq).2]
    cases he : q.name.isEmpty with
    | true => exact .empty he
    | false => exact .path (by simpa [Query.searches, he] using hq)
  | true =>
    by_cases hp : c.searchPath = q.searchPath
    · have hc := c.forPath_of_eq hp
      cases hl : c.entries.lookup q.name with
      | some found =>
        rw [(c.lookup_of_known hq (by rw [hc, hl])).2]
        exact .remembered hq hp hl
      | none =>
        rw [(c.lookup_of_new hq (by rw [hc, hl])).2]
        exact .searched hq fun _ => hl
    · have hl : (c.forPath q.searchPath).entries.lookup q.name = none := by
        rw [c.forPath_of_ne hp]
        rfl
      rw [(c.lookup_of_new hq hl).2]
      exact .searched hq fun h => absurd h hp

theorem Gives.answer_eq {c : Cache} {q : Query} {found : Option String} (hg : c.Gives q found) :
    c.answer q = found := by
  cases hg with
  | empty hn =>
    rw [(c.lookup_of_not_searches (by simp [Query.searches, hn])).2, hn]
    rfl
  | path hs =>
    have hn : q.name.isEmpty = false := by
      cases hn : q.name.isEmpty with
      | false => rfl
      | true => simp [String.isEmpty_iff.1 hn, hasSlash] at hs
    rw [(c.lookup_of_not_searches (by simp [Query.searches, hs])).2, hn]
    rfl
  | remembered hq hp hl => exact (c.lookup_of_known hq (by rw [c.forPath_of_eq hp, hl])).2
  | searched hq hl =>
    refine (c.lookup_of_new hq ?_).2
    by_cases hp : c.searchPath = q.searchPath
    · rw [c.forPath_of_eq hp, hl hp]
    · rw [c.forPath_of_ne hp]
      rfl

namespace Remembers

variable {c : Cache} {past : List Query}

theorem empty : Remembers {} [] := by
  intro path name
  have hentries : (({} : Cache).forPath path).entries = [] := by
    unfold forPath
    split_ifs <;> rfl
  rw [hentries]
  rfl

theorem answer_eq (hc : c.Remembers past) {q : Query} (hq : q.searches = true) :
    c.answer q = (firstAsked past q).found := by
  have hl := hc q.searchPath q.name
  unfold firstAsked
  cases hf : (spell q.searchPath past).find? (·.name = q.name) with
  | some first =>
    rw [hf, Option.map_some] at hl
    exact (c.lookup_of_known hq hl).2
  | none =>
    rw [hf, Option.map_none] at hl
    exact (c.lookup_of_new hq hl).2

theorem after_searches (hc : c.Remembers past) {q : Query} (hq : q.searches = true) :
    (c.after q).Remembers (past ++ [q]) := by
  intro path name
  by_cases hp : q.searchPath = path
  · subst hp
    have hl := hc q.searchPath
    rw [forPath_of_eq _ (c.searchPath_after hq), spell_concat_self past hq, List.find?_append]
    cases hf : (c.forPath q.searchPath).entries.lookup q.name with
    | some found =>
      rw [(c.lookup_of_known hq hf).1, hl]
      by_cases hn : q.name = name
      · -- the name is in the spell already, and the new look-up of it comes later
        subst hn
        rw [hl] at hf
        obtain ⟨first, hfirst, -⟩ := Option.map_eq_some_iff.1 hf
        rw [hfirst, Option.some_or]
      · simp [hn]
    | none =>
      rw [(c.lookup_of_new hq hf).1]
      by_cases hn : q.name = name
      · subst hn
        rw [hl, Option.map_eq_none_iff] at hf
        simp [hf]
      · have hne : (name == q.name) = false := by simpa using Ne.symm hn
        simp [List.lookup_cons, hne, hl, hn]
  · rw [forPath_of_ne _ (by rw [c.searchPath_after hq]; exact hp), spell_concat_other past hq hp]
    rfl

theorem after (hc : c.Remembers past) (q : Query) : (c.after q).Remembers (past ++ [q]) := by
  cases hq : q.searches with
  | true => exact hc.after_searches hq
  | false =>
    intro path name
    rw [(c.lookup_of_not_searches hq).1, spell_concat_of_not_searches path past hq]
    exact hc path name

theorem run (hc : c.Remembers past) (qs : List Query) :
    (qs.foldl Cache.after c).Remembers (past ++ qs) := by
  induction qs generalizing c past with
  | nil => rwa [List.append_nil]
  | cons q qs ih =>
    have hq := ih (hc.after q)
    rwa [List.append_assoc] at hq

end Remembers

theorem answers_append (c : Cache) (past qs : List Query) :
    c.answers (past ++ qs) = c.answers past ++ (past.foldl after c).answers qs := by
  induction past generalizing c with
  | nil => rfl
  | cons q past ih => rw [List.cons_append, answers, ih, answers, List.cons_append, List.foldl_cons]

theorem length_answers (c : Cache) (qs : List Query) : (c.answers qs).length = qs.length := by
  induction qs generalizing c with
  | nil => rfl
  | cons q qs ih => rw [answers, List.length_cons, ih, List.length_cons]

/-- In every sequence of look-ups on a new cache, a name that has to be searched for gets what was
found at its first look-up in the spell. An empty name gets nothing, and a name with a slash gets
itself just if it is an executable file at that moment; without such a look-up all the others are
answered as with it. -/
theorem answers_as_first_found (past : List Query) (q : Query) (later : List Query) :
    (({} : Cache).answers (past ++ q :: later))[past.length]? =
        some (if q.name.isEmpty then none
          else if hasSlash q.name then
            if q.files.isExecutable q.name then some q.name else none
          else (firstAsked past q).found) ∧
      (q.searches = false →
        (({} : Cache).answers (past ++ q :: later)).eraseIdx past.length =
          ({} : Cache).answers (past ++ later)) := by
  have hc : (past.foldl after {}).Remembers past := Remembers.empty.run past
  have hlength := length_answers {} past
  generalize hd : past.foldl after {} = c at hc
  constructor
  · have hget : (({} : Cache).answers (past ++ q :: later))[past.length]? = some (c.answer q) := by
      rw [answers_append, hd, answers, List.getElem?_append_right (Nat.le_of_eq hlength), hlength,
        Nat.sub_self, List.getElem?_cons_zero]
    rw [hget]
    cases hq : q.searches with
    | true =>
      obtain ⟨he, hs⟩ := q.searches_iff.1 hq
      rw [hc.answer_eq hq, he, hs]
      rfl
    | false =>
      rw [(c.lookup_of_not_searches hq).2]
      cases he : q.name.isEmpty with
      | true => rfl
      | false =>
        have hs : hasSlash q.name = true := by simpa [Query.searches, he] using hq
        rw [hs]
        rfl
  · intro hq
    rw [answers_append, hd, answers, (c.lookup_of_not_searches hq).1, answers_append, hd,
      List.eraseIdx_append_of_length_le (Nat.le_of_eq hlength), hlength, Nat.sub_self,
      List.eraseIdx_cons_zero]

/-- A program that was missed stays missed after it was made. Asking for its path in between finds
it, and changes nothing. -/
theorem answers_as_first_found_missed :
    let made : Files := ⟨#[.dir 0 [("t", 1)] false 0o755, .file [] 0o755], 0⟩
    let past : List Query := [⟨Files.empty, "/", "t"⟩]
    let q : Query := ⟨made, "/other", "/t"⟩
    let later : List Query := [⟨made, "/", "t"⟩, ⟨made, "//", "t"⟩, ⟨made, "/", "t"⟩]
    q.searches = false ∧
      (({} : Cache).answers (past ++ q :: later))[1]? = some (some "/t") ∧
      (({} : Cache).answers (past ++ q :: later)).eraseIdx 1 =
        [none, none, some "//t", some "/t"] := by
  intro made past q later
  have hq : q.searches = false := by decide
  obtain ⟨hanswer, hothers⟩ := answers_as_first_found past q later
  have hwithout : ({} : Cache).answers (past ++ later) = [none, none, some "//t", some "/t"] := by
    decide
  exact ⟨hq, hanswer.trans (by decide), (hothers hq).trans hwithout⟩

end Cache

end PipeShell.Search
