import PipeShell.Proofs.Files.Growth

/-!
# Names in directories

The path of a name below a directory is walked by walking to the directory first and then taking one
more step, also if links are followed on the way. So a file that is found under such a path is an
entry of the directory.
-/

namespace PipeShell

namespace Path

variable {dir name : String}

theorem pieces_ofList_append (base cs : List Char) :
    pieces (String.ofList (base ++ '/' :: cs)) =
      pieces (String.ofList base) ++ pieces (String.ofList cs) := by
  simp only [pieces, Text.parts, String.toList_ofList, List.splitOn_append_cons_self,
    List.map_append, List.filter_append]

theorem pieces_of_notMem (hn : '/' ∉ name.toList) :
    pieces name = if name = "" then [] else [name] := by
  rw [pieces, Text.parts, List.splitOn_eq_singleton hn]
  by_cases h : name = "" <;> simp [h]

theorem join_eq_append (hd : dir ≠ "") (hn : '/' ∉ name.toList) :
    join dir name = dir ++ ((if endsInSlash dir then "" else "/") ++ name) := by
  have habs : isAbsolute name = false := by
    cases hl : name.toList with
    | nil => simp [isAbsolute, hl]
    | cons c cs =>
      rw [hl, List.mem_cons, not_or] at hn
      simpa [isAbsolute, hl] using Ne.symm hn.1
  by_cases hs : endsInSlash dir <;> simp [join, habs, hd, hs, String.append_assoc]

theorem join_eq_ofList (hd : dir ≠ "") (hn : '/' ∉ name.toList) :
    ∃ base, join dir name = String.ofList (base ++ '/' :: name.toList) ∧
      pieces dir = pieces (String.ofList base) := by
  have hself : String.ofList dir.toList = dir := String.ofList_toList
  rw [join_eq_append hd hn]
  by_cases hs : endsInSlash dir
  · obtain ⟨base, hbase⟩ : ∃ base, dir.toList = base ++ ['/'] :=
      List.getLast?_eq_some_iff.1 (by simpa [endsInSlash] using hs)
    refine ⟨base, ?_, ?_⟩
    · rw [← String.toList_inj]
      simp [hs, hbase]
    · have hempty : pieces (String.ofList []) = [] := rfl
      rw [← hself, hbase, pieces_ofList_append, hempty, List.append_nil]
  · refine ⟨dir.toList, ?_, by rw [hself]⟩
    rw [← String.toList_inj]
    simp [hs]

theorem components_join (hd : dir ≠ "") (hn : '/' ∉ name.toList) :
    components (join dir name) = pieces dir ++ [name] := by
  obtain ⟨base, hj, hbase⟩ := join_eq_ofList hd hn
  have hpieces : pieces (join dir name) = pieces dir ++ if name = "" then [] else [name] := by
    rw [hj, pieces_ofList_append, String.ofList_toList, pieces_of_notMem hn, hbase]
  have hslash : endsInSlash (join dir name) = decide (name = "") := by
    rw [hj, endsInSlash, String.toList_ofList]
    cases hl : name.toList with
    | nil => simp [String.toList_eq_nil_iff.1 hl]
    | cons c cs =>
      have hne : name ≠ "" := by
        rintro rfl
        simp at hl
      have hlast : (c :: cs).getLast? ≠ some '/' := by
        intro h
        exact hn (hl ▸ List.mem_of_getLast? h)
      simpa [hne, List.getLast?_cons_cons] using hlast
  rw [components, hpieces, hslash]
  by_cases h : name = "" <;> simp [h]

theorem isAbsolute_join_eq (hd : dir ≠ "") (hn : '/' ∉ name.toList) :
    isAbsolute (join dir name) = isAbsolute dir := by
  rw [join_eq_append hd hn, isAbsolute, isAbsolute, String.toList_append]
  cases hl : dir.toList with
  | nil => exact absurd (String.toList_eq_nil_iff.1 hl) hd
  | cons c cs => rfl

theorem hasNul_of_join (hd : dir ≠ "") (hn : '/' ∉ name.toList)
    (h : hasNul (join dir name) = false) : hasNul dir = false := by
  rw [join_eq_append hd hn, hasNul, String.toList_append, List.contains_append,
    Bool.or_eq_false_iff] at h
  exact h.1

theorem utf8ByteSize_le_join (hd : dir ≠ "") (hn : '/' ∉ name.toList) :
    dir.utf8ByteSize ≤ (join dir name).utf8ByteSize := by
  rw [join_eq_append hd hn, String.utf8ByteSize_append]
  exact Nat.le_add_right _ _

end Path

def Node.isDirectory : Node → Bool
  | .dir .. => true
  | _ => false

/-- Names in directories have no slashes, and what is above a directory is one as well. -/
def Files.wellFormed (f : Files) : Bool :=
  f.nodes.all fun
    | .dir parent entries _ _ =>
      entries.all (fun e => !e.1.toList.contains '/') && (f.node? parent).any Node.isDirectory
    | _ => true

def Files.goOn (f : Files) (more : List String) : Walk → Walk
  | .ended (.found i) => f.walk true i more
  | .ended (.vacant ..) => .failed .noEntry
  | .failed e => .failed e
  | .link dir target rest => .link dir target (rest ++ more)

namespace Files

variable {f : Files} {more : List String}

theorem walk_append (hm : more ≠ []) (here : Inode) (names : List String) :
    f.walk true here (names ++ more) = f.goOn more (f.walk true here names) := by
  induction names generalizing here with
  | nil => rw [walk_nil, List.nil_append, goOn]
  | cons name rest ih =>
    rw [List.cons_append]
    by_cases hd : ∀ parent entries removed mode,
        f.node? here ≠ some (.dir parent entries removed mode)
    · rw [walk_of_not_dir hd, walk_of_not_dir hd, goOn]
    · push Not at hd
      obtain ⟨parent, entries, removed, mode, hd⟩ := hd
      rw [walk_of_dir hd, walk_of_dir hd]
      split_ifs
      · exact ih here
      · rfl
      · exact ih here
      · exact ih parent
      · rfl
      · cases entries.lookup name with
        | none =>
          rw [enter, enter, if_neg (by simp [hm])]
          split_ifs <;> rfl
        | some i =>
          by_cases hi : ∀ target, f.node? i ≠ some (.link target)
          · rw [enter_of_not_link hi, enter_of_not_link hi]
            exact ih i
          · push Not at hi
            obtain ⟨target, hi⟩ := hi
            rw [enter_of_link hi, enter_of_link hi, Bool.true_or, if_pos rfl, Bool.true_or,
              if_pos rfl, goOn]

section Resolve

variable {links : Nat} {here : Inode} {names : List String}

theorem resolveFrom_of_ended {follow : Bool} {p : Place}
    (hw : f.walk follow here names = .ended p) :
    f.resolveFrom follow links here names = .ok p := by
  cases links <;> simp only [resolveFrom, hw]

theorem resolveFrom_of_failed {follow : Bool} {e : OsError}
    (hw : f.walk follow here names = .failed e) :
    f.resolveFrom follow links here names = .error e := by
  cases links <;> simp only [resolveFrom, hw]

theorem resolveFrom_of_link {follow : Bool} {dir : Inode} {target : String} {rest : List String}
    (hw : f.walk follow here names = .link dir target rest) :
    f.resolveFrom follow (links + 1) here names =
      f.resolveFrom follow links (origin dir target) (Path.components target ++ rest) := by
  rw [resolveFrom, hw]

theorem resolveFrom_congr {other : Inode} {others : List String}
    (hw : f.walk true here names = f.walk true other others) :
    f.resolveFrom true links here names = f.resolveFrom true links other others := by
  rw [resolveFrom.eq_def, resolveFrom.eq_def]
  simp only [hw]

theorem resolveFrom_of_append (hm : more ≠ []) {p : Place}
    (h : f.resolveFrom true links here (names ++ more) = .ok p) :
    ∃ i left, f.resolveFrom true links here names = .ok (.found i) ∧
      f.resolveFrom true left i more = .ok p := by
  have hwalk := walk_append (f := f) hm here names
  fun_induction f.resolveFrom true links here names with
  | case1 links here names place hw =>
    rw [hw] at hwalk
    cases place with
    | vacant dir name =>
      rw [resolveFrom_of_failed hwalk] at h
      cases h
    | found i =>
      exact ⟨i, links, rfl, (resolveFrom_congr hwalk).symm.trans h⟩
  | case2 links here names e hw =>
    rw [hw] at hwalk
    rw [resolveFrom_of_failed hwalk] at h
    cases h
  | case3 here names dir target rest hw =>
    rw [hw] at hwalk
    simp [resolveFrom, hwalk, goOn] at h
  | case4 here names dir target rest hw links ih =>
    rw [hw] at hwalk
    rw [resolveFrom_of_link hwalk, ← List.append_assoc] at h
    exact ih h (walk_append hm _ _)

theorem resolveFrom_append (hm : more ≠ []) {i : Inode} {p : Place}
    (h : f.resolveFrom true links here names = .ok (.found i))
    (hw : f.walk true i more = .ended p) :
    f.resolveFrom true links here (names ++ more) = .ok p := by
  have hwalk := walk_append (f := f) hm here names
  fun_induction f.resolveFrom true links here names with
  | case1 links here names place hn =>
    cases h
    rw [hn, goOn, hw] at hwalk
    exact resolveFrom_of_ended hwalk
  | case2 links here names e hn => cases h
  | case3 here names dir target rest hn => cases h
  | case4 here names dir target rest hn links ih =>
    rw [hn] at hwalk
    rw [resolveFrom_of_link hwalk, ← List.append_assoc]
    exact ih h (walk_append hm _ _)

end Resolve

theorem wellFormed_dir (hf : f.wellFormed = true) {i parent : Inode}
    {entries : List (String × Inode)} {removed : Bool} {mode : Nat}
    (hd : f.node? i = some (.dir parent entries removed mode)) :
    (∀ e ∈ entries, '/' ∉ e.1.toList) ∧ (f.node? parent).any Node.isDirectory = true := by
  have hall := Array.all_eq_true_iff_forall_mem.1 hf _ (Array.mem_of_getElem? hd)
  simpa using hall

theorem mem_entries_of_resolveFrom (hf : f.wellFormed = true) {links : Nat} {i j : Inode}
    {name : String} (h : f.resolveFrom true links i [name] = .ok (.found j))
    (hj : (f.node? j).any Node.isDirectory = false) :
    ∃ parent entries removed mode, f.node? i = some (.dir parent entries removed mode) ∧
      name ∈ entries.map Prod.fst := by
  by_cases hd : ∀ parent entries removed mode, f.node? i ≠ some (.dir parent entries removed mode)
  · rw [resolveFrom_of_failed (walk_of_not_dir hd true name [])] at h
    cases h
  · push Not at hd
    obtain ⟨parent, entries, removed, mode, hd⟩ := hd
    refine ⟨parent, entries, removed, mode, hd, ?_⟩
    obtain ⟨-, hparent⟩ := wellFormed_dir hf hd
    have hself : (f.node? i).any Node.isDirectory = true := by rw [hd]; rfl
    have hstay : ∀ k, f.walk true i [name] = f.walk true k [] →
        (f.node? k).any Node.isDirectory = true → False := by
      intro k hw hk
      rw [resolveFrom_of_ended (hw.trans (walk_nil f true k))] at h
      cases h
      rw [hk] at hj
      cases hj
    have hw := walk_of_dir hd true name []
    split_ifs at hw
    · exact (hstay i hw hself).elim
    · rw [resolveFrom_of_failed hw] at h
      cases h
    · exact (hstay i hw hself).elim
    · exact (hstay parent hw hparent).elim
    · rw [resolveFrom_of_failed hw] at h
      cases h
    · cases hl : entries.lookup name with
      | none =>
        rw [hl, enter, List.isEmpty_nil, if_pos rfl] at hw
        rw [resolveFrom_of_ended hw] at h
        cases h
      | some k =>
        obtain ⟨before, after, rfl, -⟩ := List.lookup_eq_some_iff.1 hl
        simp

theorem resolve_of_find {path : String} {i : Inode} (h : f.find path = .ok i) :
    f.resolve true path = .ok (.found i) := by
  rw [find] at h
  cases hr : f.resolve true path with
  | error e => simp [hr] at h
  | ok p =>
    cases p with
    | found j =>
      simp only [hr, Place.node, Except.ok.injEq] at h
      rw [h]
    | vacant dir name => simp [hr, Place.node] at h

theorem resolveFrom_of_isExecutable_join {dir name : String} (hd : dir ≠ "")
    (hn : '/' ∉ name.toList) (he : f.isExecutable (Path.join dir name) = true) :
    Path.hasNul dir = false ∧ dir.utf8ByteSize ≤ pathLimit ∧
      ∃ i j left, f.resolveFrom true linkLimit (origin f.cwd dir) (Path.pieces dir) =
          .ok (.found i) ∧
        f.resolveFrom true left i [name] = .ok (.found j) ∧
        (f.node? j).any Node.isDirectory = false := by
  obtain ⟨content, mode, hs⟩ : ∃ content mode,
      f.stat (Path.join dir name) = .ok (.file content mode) := by
    simp only [isExecutable] at he
    split at he
    · next content mode hs => exact ⟨content, mode, hs⟩
    · cases he
  obtain ⟨hnul, j, hfind, hj⟩ := Image.stat_of_file hs
  have hr := resolve_of_find hfind
  simp only [resolve] at hr
  split_ifs at hr with hempty hlong
  rw [Path.components_join hd hn, origin, Path.isAbsolute_join_eq hd hn] at hr
  obtain ⟨i, left, hi, hstep⟩ := resolveFrom_of_append (by simp) hr
  have hsize := Path.utf8ByteSize_le_join hd hn
  exact ⟨Path.hasNul_of_join hd hn hnul, by omega, i, j, left, hi, hstep, by rw [hj]; rfl⟩

theorem stat_of_isExecutable_join (hf : f.wellFormed = true) {dir name : String} (hd : dir ≠ "")
    (hn : '/' ∉ name.toList) (he : f.isExecutable (Path.join dir name) = true) :
    ∃ parent entries removed mode, f.stat dir = .ok (.dir parent entries removed mode) ∧
      name ∈ entries.map Prod.fst := by
  obtain ⟨hnul, hsize, i, j, left, hi, hstep, hj⟩ := resolveFrom_of_isExecutable_join hd hn he
  obtain ⟨parent, entries, removed, mode, hdir, hmem⟩ := mem_entries_of_resolveFrom hf hstep hj
  refine ⟨parent, entries, removed, mode, ?_, hmem⟩
  have hcomponents : f.resolveFrom true linkLimit (origin f.cwd dir) (Path.components dir) =
      .ok (.found i) := by
    rw [Path.components]
    split_ifs
    · refine resolveFrom_append (by simp) hi ?_
      rw [walk_of_dir hdir, if_pos rfl, walk_nil]
    · rw [List.append_nil]
      exact hi
  have hfind : f.find dir = .ok i := by
    rw [find, resolve, if_neg (by simpa using hd), if_neg (by omega), hcomponents]
    rfl
  simp [stat, hnul, hfind, hdir]

theorem ne_empty_of_isExecutable_join {dir name : String} (hd : dir ≠ "")
    (he : f.isExecutable (Path.join dir name) = true) : name ≠ "" := by
  rintro rfl
  obtain ⟨-, -, i, j, left, -, hstep, hj⟩ :=
    resolveFrom_of_isExecutable_join hd (by simp) he
  by_cases hi : ∀ parent entries removed mode, f.node? i ≠ some (.dir parent entries removed mode)
  · rw [resolveFrom_of_failed (walk_of_not_dir hi true "" [])] at hstep
    cases hstep
  · push Not at hi
    obtain ⟨parent, entries, removed, mode, hi⟩ := hi
    have hwalk : f.walk true i [""] = .ended (.found i) := by
      rw [walk_of_dir hi, if_pos rfl, walk_nil]
    rw [resolveFrom_of_ended hwalk] at hstep
    cases hstep
    rw [hi] at hj
    cases hj

theorem list_empty (f : Files) : f.list "" = .error .noEntry := by
  simp [list, openForReading, stat, find, resolve, Path.hasNul]

theorem list_of_stat {path : String} {parent : Inode} {entries : List (String × Inode)}
    {removed : Bool} {mode : Nat} (hs : f.stat path = .ok (.dir parent entries removed mode))
    (hl : (f.list path).isOk = true) : f.list path = .ok (entries.map Prod.fst) := by
  simp only [list, openForReading, hs] at hl ⊢
  split_ifs at hl ⊢
  · rfl
  · cases hl

theorem node?_of_stat {path : String} {n : Node} (h : f.stat path = .ok n) :
    ∃ i, f.node? i = some n := by
  simp only [stat] at h
  split_ifs at h
  cases hf : f.find path with
  | error e => simp [hf] at h
  | ok i =>
    cases hn : f.node? i with
    | none => simp [hf, hn] at h
    | some m =>
      simp only [hf, hn, Option.map_some, Option.getD_some, Except.ok.injEq] at h
      exact ⟨i, by rw [hn, h]⟩

theorem notMem_of_list (hf : f.wellFormed = true) {path name : String} {names : List String}
    (h : f.list path = .ok names) (hn : name ∈ names) : '/' ∉ name.toList := by
  cases hs : f.stat path with
  | error e => simp [list, openForReading, hs] at h
  | ok n =>
    simp only [list, openForReading, hs] at h
    split_ifs at h
    cases n with
    | dir parent entries removed mode =>
      simp only [Except.ok.injEq] at h
      subst h
      obtain ⟨e, he, rfl⟩ := List.mem_map.1 hn
      obtain ⟨i, hi⟩ := node?_of_stat hs
      exact (wellFormed_dir hf hi).1 e he
    | file => cases h
    | link => cases h
    | device => cases h

end Files

end PipeShell
