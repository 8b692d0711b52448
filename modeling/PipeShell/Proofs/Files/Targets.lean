import PipeShell.Proofs.Files.Growth

/-!
# Opening and writing targets

A file that is opened for writing is emptied or made; a write changes one node. Both are changes of
single nodes, so that they commute when they are about different files. Two trees that differ only
in what the log holds stay so when the same is done to both.
-/

namespace PipeShell

def Node.written (offset : Option Nat) (data : Bytes) : Node → Node
  | .file content mode => .file (Files.splice content (offset.getD content.length) data) mode
  | .device (some room) => .device (some (room - data.length))
  | n => n

def Node.emptied (append : Bool) : Node → Node
  | .file content mode => .file (if append then content else []) mode
  | n => n

def Node.named (name : String) (i : Inode) : Node → Node
  | .dir parent entries removed mode => .dir parent (entries ++ [(name, i)]) removed mode
  | n => n

namespace Files

def alter (f : Files) (i : Inode) (change : Node → Node) : Files :=
  match f.node? i with
  | some n => f.put i (change n)
  | none => f

@[simp] theorem cwd_alter (f : Files) (i : Inode) (change : Node → Node) :
    (f.alter i change).cwd = f.cwd := by
  unfold alter
  split <;> rfl

@[simp] theorem size_alter (f : Files) (i : Inode) (change : Node → Node) :
    (f.alter i change).nodes.size = f.nodes.size := by
  unfold alter
  cases f.node? i with
  | none => rfl
  | some n => simp [put]

theorem node?_alter (f : Files) (i : Inode) (change : Node → Node) (j : Inode) :
    (f.alter i change).node? j = if j = i then (f.node? i).map change else f.node? j := by
  unfold alter
  cases hn : f.node? i with
  | none =>
    split_ifs with hj
    · rw [hj, hn]
      rfl
    · rfl
  | some n =>
    have hi := lt_size_of_node? hn
    unfold node? put
    split_ifs with hj
    · rw [hj]
      simp [hi]
    · simp [Ne.symm hj]

theorem node?_alter_self (f : Files) (i : Inode) (change : Node → Node) :
    (f.alter i change).node? i = (f.node? i).map change := by
  rw [node?_alter, if_pos rfl]

theorem node?_alter_of_ne (f : Files) {i j : Inode} (h : j ≠ i) (change : Node → Node) :
    (f.alter i change).node? j = f.node? j := by
  rw [node?_alter, if_neg h]

theorem ext_node? {f g : Files} (hc : f.cwd = g.cwd) (hn : ∀ i, f.node? i = g.node? i) : f = g := by
  obtain ⟨nodes, cwd⟩ := f
  obtain ⟨nodes', cwd'⟩ := g
  obtain rfl : nodes = nodes' := Array.ext_getElem? hn
  obtain rfl : cwd = cwd' := hc
  rfl

theorem alter_comm (f : Files) {i j : Inode} (h : i ≠ j) (a b : Node → Node) :
    (f.alter i a).alter j b = (f.alter j b).alter i a := by
  refine ext_node? (by simp) ?_
  intro k
  simp only [node?_alter]
  split_ifs <;> simp_all

theorem put_node? {f : Files} {i : Inode} {n : Node} (hn : f.node? i = some n) : f.put i n = f := by
  refine ext_node? rfl ?_
  intro j
  by_cases hj : j = i
  · rw [hj, hn]
    simp [node?, put, lt_size_of_node? hn]
  · simp [node?, put, Ne.symm hj]

theorem writeAt_eq (f : Files) (i : Inode) (offset : Option Nat) (data : Bytes) :
    (f.writeAt i offset data).2 = f.alter i (Node.written offset data) := by
  unfold writeAt alter
  cases hn : f.node? i with
  | none => rfl
  | some n =>
    cases n with
    | dir => exact (put_node? hn).symm
    | file => rfl
    | link => exact (put_node? hn).symm
    | device room =>
      cases room with
      | none => exact (put_node? hn).symm
      | some room =>
        simp only [Node.written]
        split_ifs with hr
        · rfl
        · rw [Nat.sub_eq_zero_of_le (Nat.le_of_not_le hr)]

theorem writeAt_congr {f g : Files} {i : Inode} (h : g.node? i = f.node? i) (offset : Option Nat)
    (data : Bytes) : (g.writeAt i offset data).1 = (f.writeAt i offset data).1 := by
  unfold writeAt
  rw [h]
  cases f.node? i with
  | none => rfl
  | some n =>
    cases n with
    | dir => rfl
    | file => rfl
    | link => rfl
    | device room =>
      cases room with
      | none => rfl
      | some room =>
        simp only
        split_ifs <;> rfl

def Openable (f : Files) : Place → Prop
  | .found i =>
    match f.node? i with
    | some (.file content mode) => (Node.file content mode).allows .write = true
    | some (.device _) => True
    | _ => False
  | .vacant dir _ =>
    match f.node? dir with
    | some (.dir parent entries false mode) =>
      (Node.dir parent entries false mode).allows .write = true ∧
        (Node.dir parent entries false mode).allows .execute = true
    | _ => False

def nodeAt (f : Files) : Place → Inode
  | .found i => i
  | .vacant _ _ => f.nodes.size

def openedAt (f : Files) (append : Bool) : Place → Files
  | .found i => f.alter i (Node.emptied append)
  | .vacant dir name =>
    (f.addNode (.file [] defaultMode)).2.alter dir (Node.named name f.nodes.size)

theorem enterName_eq (f : Files) (dir : Inode) (name : String) (i : Inode) :
    f.enterName dir name i = f.alter dir (Node.named name i) := by
  unfold enterName alter
  cases hn : f.node? dir with
  | none => rfl
  | some n =>
    cases n with
    | dir => rfl
    | file => exact (put_node? hn).symm
    | link => exact (put_node? hn).symm
    | device => exact (put_node? hn).symm

theorem openForWriting_of_place {f : Files} {path : String} {p : Place} (hp : f.place path = .ok p)
    (ho : f.Openable p) (append : Bool) :
    f.openForWriting path append = .ok (f.nodeAt p, f.openedAt append p) := by
  unfold place at hp
  split_ifs at hp with hnul hempty hlong
  rw [openForWriting, if_neg hnul, if_neg hempty, if_neg hlong, hp]
  cases p with
  | vacant dir name =>
    simp only [Openable] at ho
    split at ho
    · next parent entries mode hd =>
      simp only [make, hd, mayChange, ho.1, ho.2, Bool.and_self, if_true, enterName_eq]
      rfl
    · exact ho.elim
  | found i =>
    simp only [Openable] at ho
    split at ho
    · next content mode hf =>
      simp only [hf, ho, Bool.not_true, Bool.false_eq_true, if_false, nodeAt, openedAt, alter]
      cases append <;> rfl
    · next room hd =>
      simp only [hd, nodeAt, openedAt, alter]
      rw [Node.emptied, put_node? hd]
      simp
    · exact ho.elim

theorem place_of_openForWriting {f : Files} {path : String} {append : Bool} {made : Inode × Files}
    (h : f.openForWriting path append = .ok made) : ∃ p, f.place path = .ok p ∧ f.Openable p := by
  unfold place
  rw [openForWriting] at h
  by_cases hnul : Path.hasNul path
  · simp [hnul] at h
  by_cases hempty : path.isEmpty
  · simp [hnul, hempty] at h
  by_cases hlong : pathLimit < path.utf8ByteSize
  · simp [hnul, hempty, hlong] at h
  rw [if_neg hnul, if_neg hempty, if_neg hlong] at h ⊢
  cases hr : f.resolveTarget linkLimit (origin f.cwd path) (Path.pieces path)
      (Path.endsInSlash path) with
  | error e => simp [hr] at h
  | ok p =>
    refine ⟨p, rfl, ?_⟩
    simp only [hr] at h
    cases p with
    | vacant dir name =>
      simp only [make] at h
      split at h
      · next parent entries mode hd =>
        split_ifs at h with hmay
        simpa [Openable, hd, mayChange] using hmay
      · cases h
    | found i =>
      simp only at h
      split at h
      · next content mode hf =>
        by_cases ha : (Node.file content mode).allows .write
        · simpa [Openable, hf] using ha
        · simp [ha] at h
      · next room hd => simp [Openable, hd]
      · cases h
      · cases h

section Grow

variable {changed : Inode → Prop} {made : Inode → String → Prop}

theorem grown_alter (f : Files) {i : Inode} {change : Node → Node}
    (hc : ∀ n : Node, n.Grows (changed i) (made i) (fun _ => False) (change n)) :
    Grown changed made f (f.alter i change) where
  cwd := cwd_alter f i change
  size := Nat.le_of_eq (size_alter f i change).symm
  node {j n} hn := by
    by_cases hj : j = i
    · subst hj
      refine ⟨change n, by rw [node?_alter_self, hn]; rfl, ?_⟩
      exact (Node.Grows.refl n).trans (hc n) id (fun _ => id) (fun _ => id) (fun _ => False.elim)
    · exact ⟨n, by rw [node?_alter_of_ne f hj, hn], Node.Grows.refl n⟩
  fresh {j} hj hj' := by
    rw [size_alter] at hj'
    exact absurd hj' (Nat.not_lt.2 hj)

theorem grows_written {changed : Prop} {made : String → Prop} {new : Inode → Prop} (hc : changed)
    (offset : Option Nat) (data : Bytes) (n : Node) :
    n.Grows changed made new (n.written offset data) := by
  cases n with
  | dir => exact Node.Grows.refl _
  | file => exact .file fun h => absurd hc h
  | link => exact .link
  | device room => cases room <;> exact .device

theorem grows_emptied {changed : Prop} {made : String → Prop} {new : Inode → Prop} (hc : changed)
    (append : Bool) (n : Node) : n.Grows changed made new (n.emptied append) := by
  cases n with
  | dir => exact Node.Grows.refl _
  | file => exact .file fun h => absurd hc h
  | link => exact .link
  | device => exact .device

theorem grown_writeAt (f : Files) (i : Inode) (offset : Option Nat) (data : Bytes) :
    Grown (· = i) (fun _ _ => False) f (f.writeAt i offset data).2 := by
  rw [writeAt_eq]
  exact grown_alter f (grows_written rfl offset data)

theorem node?_addNode (f : Files) (n : Node) (j : Inode) :
    (f.addNode n).2.node? j = if j = f.nodes.size then some n else f.node? j := by
  simp [node?, addNode, Array.getElem?_push]

theorem grown_openedAt (f : Files) (append : Bool) (p : Place) :
    Grown (fun i => p = .found i) (fun dir name => p = .vacant dir name) f
      (f.openedAt append p) := by
  cases p with
  | found i => exact grown_alter f (grows_emptied rfl append)
  | vacant dir name =>
    have hsize : (f.openedAt append (.vacant dir name)).nodes.size = f.nodes.size + 1 := by
      simp [openedAt, addNode]
    refine ⟨by simp [openedAt, addNode], by omega, ?_, ?_⟩
    · intro i n hn
      have hne : i ≠ f.nodes.size := Nat.ne_of_lt (lt_size_of_node? hn)
      by_cases hi : i = dir
      · subst hi
        refine ⟨n.named name f.nodes.size, ?_, ?_⟩
        · rw [openedAt, node?_alter_self, node?_addNode, if_neg hne, hn]
          rfl
        · cases n with
          | dir =>
            refine .dir ?_
            intro e he
            rw [List.mem_singleton.1 he, hsize]
            exact ⟨rfl, Nat.le_refl _, Nat.lt_succ_self _⟩
          | file => exact Node.Grows.refl _
          | link => exact Node.Grows.refl _
          | device => exact Node.Grows.refl _
      · refine ⟨n, ?_, Node.Grows.refl n⟩
        rw [openedAt, node?_alter_of_ne _ hi, node?_addNode, if_neg hne, hn]
    · intro i hi hj
      obtain rfl : i = f.nodes.size := by omega
      by_cases hd : f.nodes.size = dir
      · rw [openedAt, ← hd, node?_alter_self, node?_addNode, if_pos rfl]
        exact ⟨[], rfl⟩
      · rw [openedAt, node?_alter_of_ne _ hd, node?_addNode, if_pos rfl]
        exact ⟨[], rfl⟩

theorem Openable.grown {f g : Files} {p : Place} (ho : f.Openable p)
    (hg : Grown changed made f g) : g.Openable p := by
  cases p with
  | found i =>
    unfold Openable at ho ⊢
    cases hn : f.node? i with
    | none => simp [hn] at ho
    | some n =>
      obtain ⟨n', hn', hgrows⟩ := hg.node hn
      simp only [hn, hn'] at ho ⊢
      cases hgrows with
      | dir => exact ho
      | file => exact ho
      | link => exact ho
      | device => trivial
  | vacant dir name =>
    unfold Openable at ho ⊢
    cases hn : f.node? dir with
    | none => simp [hn] at ho
    | some n =>
      obtain ⟨n', hn', hgrows⟩ := hg.node hn
      simp only [hn, hn'] at ho ⊢
      cases hgrows with
      | @dir _ _ _ removed _ _ => cases removed <;> exact ho
      | file => exact ho
      | link => exact ho
      | device => exact ho

theorem place_openedAt {f : Files} {path : String} {p q : Place} (hq : f.place path = .ok q)
    (hne : q ≠ p) (append : Bool) : (f.openedAt append p).place path = .ok q := by
  have hg := grown_openedAt f append p
  cases q with
  | found i => exact place_of_found hg hq
  | vacant dir name => exact place_of_vacant hg hq fun h => hne h.symm

theorem place_writeAt {f : Files} {path : String} {q : Place} (hq : f.place path = .ok q)
    (i : Inode) (offset : Option Nat) (data : Bytes) :
    (f.writeAt i offset data).2.place path = .ok q := by
  have hg := grown_writeAt f i offset data
  cases q with
  | found j => exact place_of_found hg hq
  | vacant dir name => exact place_of_vacant hg hq id

end Grow

section Commute

theorem alter_of_fixed {f : Files} {i : Inode} {change : Node → Node}
    (h : ∀ n, f.node? i = some n → change n = n) : f.alter i change = f := by
  unfold alter
  cases hn : f.node? i with
  | none => rfl
  | some n =>
    simp only [h n hn]
    exact put_node? hn

theorem addNode_alter (f : Files) {i : Inode} (hi : i < f.nodes.size) (change : Node → Node)
    (n : Node) : ((f.alter i change).addNode n).2 = (f.addNode n).2.alter i change := by
  refine ext_node? (by simp [addNode]) ?_
  intro j
  have hne : i ≠ f.nodes.size := Nat.ne_of_lt hi
  simp only [node?_addNode, node?_alter, size_alter]
  split_ifs with h1 h2 <;> simp_all

theorem Openable.dir {f : Files} {dir : Inode} {name : String} (ho : f.Openable (.vacant dir name)) :
    ∃ parent entries removed mode, f.node? dir = some (.dir parent entries removed mode) := by
  unfold Openable at ho
  simp only at ho
  split at ho
  · next parent entries mode hd => exact ⟨parent, entries, false, mode, hd⟩
  · exact ho.elim

theorem Openable.lt_size {f : Files} {i : Inode} (ho : f.Openable (.found i)) :
    i < f.nodes.size := by
  cases hn : f.node? i with
  | none => simp [Openable, hn] at ho
  | some n => exact lt_size_of_node? hn

/-- A write to a file and the opening of another one can be done in either order. -/
theorem openedAt_alter {f : Files} {p : Place} (ho : f.Openable p) {i : Inode}
    (hi : i < f.nodes.size) (hne : p ≠ .found i) (append : Bool) (offset : Option Nat)
    (data : Bytes) :
    (f.alter i (Node.written offset data)).openedAt append p =
      (f.openedAt append p).alter i (Node.written offset data) := by
  cases p with
  | found j =>
    refine alter_comm f ?_ _ _
    rintro rfl
    exact hne rfl
  | vacant dir name =>
    rw [openedAt, size_alter, addNode_alter f hi]
    by_cases hd : i = dir
    · -- the directory itself is not written to
      subst hd
      obtain ⟨parent, entries, removed, mode, hd⟩ := ho.dir
      have hadd : (f.addNode (.file [] defaultMode)).2.node? i =
          some (.dir parent entries removed mode) := by
        rw [node?_addNode, if_neg (Nat.ne_of_lt hi), hd]
      have hleft : (f.addNode (.file [] defaultMode)).2.alter i (Node.written offset data) =
          (f.addNode (.file [] defaultMode)).2 := by
        refine alter_of_fixed ?_
        intro n hn
        rw [hadd] at hn
        cases hn
        rfl
      rw [hleft, openedAt]
      refine (alter_of_fixed ?_).symm
      intro n hn
      rw [node?_alter_self, hadd] at hn
      cases hn
      rfl
    · exact alter_comm _ hd _ _

theorem writeAt_openedAt {f : Files} {p : Place} (ho : f.Openable p) {i : Inode}
    (hi : i < f.nodes.size) (hne : p ≠ .found i) (append : Bool) (offset : Option Nat)
    (data : Bytes) :
    ((f.openedAt append p).writeAt i offset data).1 = (f.writeAt i offset data).1 := by
  cases p with
  | found j =>
    refine writeAt_congr (node?_alter_of_ne f ?_ _) offset data
    rintro rfl
    exact hne rfl
  | vacant dir name =>
    have hadd : (f.addNode (.file [] defaultMode)).2.node? i = f.node? i := by
      rw [node?_addNode, if_neg (Nat.ne_of_lt hi)]
    by_cases hd : i = dir
    · subst hd
      obtain ⟨parent, entries, removed, mode, hd⟩ := ho.dir
      have hd' : (f.openedAt append (.vacant i name)).node? i =
          some (.dir parent (entries ++ [(name, f.nodes.size)]) removed mode) := by
        rw [openedAt, node?_alter_self, hadd, hd]
        rfl
      simp only [writeAt, hd, hd']
    · refine writeAt_congr ?_ offset data
      rw [openedAt, node?_alter_of_ne _ hd, hadd]

end Commute

theorem resolveFrom_of_resolveTarget {f : Files} {links : Nat} {here : Inode} {names : List String}
    {slash : Bool} {p : Place} (h : f.resolveTarget links here names slash = .ok p) :
    slash = false ∧ f.resolveFrom true links here names = .ok p := by
  cases slash with
  | true =>
    obtain ⟨e, he⟩ := resolveTarget_slash f links here names
    rw [he] at h
    cases h
  | false =>
    refine ⟨rfl, ?_⟩
    induction links generalizing here names with
    | zero =>
      rw [resolveTarget] at h
      rw [resolveFrom]
      cases hw : f.walk true here names <;> simp_all
    | succ links ih =>
      rw [resolveTarget] at h
      rw [resolveFrom]
      cases hw : f.walk true here names with
      | ended q => simp_all
      | failed e => simp_all
      | link dir target rest =>
        simp only [hw, Bool.false_eq_true, if_false] at h ⊢
        split_ifs at h with hrest
        · -- The path ends in this link, so a slash at the end of its text would be refused.
          cases hslash : Path.endsInSlash target with
          | true =>
            obtain ⟨e, he⟩ := resolveTarget_slash f links (origin dir target) (Path.pieces target)
            rw [hslash, he] at h
            cases h
          | false =>
            rw [hslash] at h
            rw [List.isEmpty_iff.1 hrest, Path.components, hslash]
            simpa using ih h
        · exact ih h

theorem resolve_of_place {f : Files} {path : String} {p : Place} (h : f.place path = .ok p) :
    Path.hasNul path = false ∧ f.resolve true path = .ok p := by
  unfold place at h
  unfold resolve
  split_ifs at h with hnul hempty hlong
  obtain ⟨hslash, hr⟩ := resolveFrom_of_resolveTarget h
  refine ⟨by simpa using hnul, ?_⟩
  rw [if_neg hempty, if_neg hlong, Path.components, hslash]
  simpa using hr

/-- The trees differ at most in what the log holds. -/
structure Alike (log : Option Inode) (f g : Files) : Prop where
  cwd : g.cwd = f.cwd
  size : g.nodes.size = f.nodes.size
  node : ∀ i, log ≠ some i → g.node? i = f.node? i
  grows : ∀ i n, log = some i → f.node? i = some n →
    ∃ n', g.node? i = some n' ∧ n.Grows True (fun _ => False) (fun _ => False) n'

namespace Alike

variable {log : Option Inode} {f g : Files}

theorem refl (log : Option Inode) (f : Files) : Alike log f f where
  cwd := rfl
  size := rfl
  node _ _ := rfl
  grows _ n _ hn := ⟨n, hn, Node.Grows.refl n⟩

theorem grown (ha : Alike log f g) : Grown (fun i => log = some i) (fun _ _ => False) f g where
  cwd := ha.cwd
  size := Nat.le_of_eq ha.size.symm
  node {i n} hn := by
    by_cases hi : log = some i
    · obtain ⟨n', hn', hgrows⟩ := ha.grows i n hi hn
      refine ⟨n', hn', ?_⟩
      exact (Node.Grows.refl n).trans hgrows (fun _ => hi) (fun _ => id) (fun _ => id)
        (fun _ => False.elim)
    · exact ⟨n, by rw [ha.node i hi, hn], Node.Grows.refl n⟩
  fresh {i} hi hj := by
    rw [ha.size] at hj
    exact absurd hj (Nat.not_lt.2 hi)

theorem write_log (ha : Alike log f g) {i : Inode} (hi : log = some i) (offset : Option Nat)
    (data : Bytes) : Alike log f (g.writeAt i offset data).2 where
  cwd := by rw [writeAt_eq, cwd_alter, ha.cwd]
  size := by rw [writeAt_eq, size_alter, ha.size]
  node j hj := by
    have hne : j ≠ i := by
      rintro rfl
      exact hj hi
    rw [writeAt_eq, node?_alter_of_ne _ hne, ha.node j hj]
  grows j n hj hn := by
    obtain rfl : i = j := Option.some.inj (hi.symm.trans hj)
    obtain ⟨n', hn', hgrows⟩ := ha.grows i n hi hn
    refine ⟨n'.written offset data, by rw [writeAt_eq, node?_alter_self, hn']; rfl, ?_⟩
    exact hgrows.trans (grows_written trivial offset data n') id (fun _ => id) (fun _ => id)
      (fun _ => id)

theorem alter (ha : Alike log f g) {i : Inode} (hi : log ≠ some i) (change : Node → Node) :
    Alike log (f.alter i change) (g.alter i change) where
  cwd := by rw [cwd_alter, cwd_alter, ha.cwd]
  size := by rw [size_alter, size_alter, ha.size]
  node j hj := by
    rw [node?_alter, node?_alter, ha.node i hi, ha.node j hj]
  grows j n hj hn := by
    have hne : j ≠ i := by
      rintro rfl
      exact hi hj
    rw [node?_alter_of_ne _ hne] at hn ⊢
    exact ha.grows j n hj hn

theorem alter_named (ha : Alike log f g) (dir : Inode) (name : String) (i : Inode) :
    Alike log (f.alter dir (Node.named name i)) (g.alter dir (Node.named name i)) := by
  by_cases hd : log = some dir
  · refine ⟨by rw [cwd_alter, cwd_alter, ha.cwd], by rw [size_alter, size_alter, ha.size], ?_, ?_⟩
    · intro j hj
      have hne : j ≠ dir := by
        rintro rfl
        exact hj hd
      rw [node?_alter_of_ne _ hne, node?_alter_of_ne _ hne, ha.node j hj]
    · intro j n hj hn
      obtain rfl : dir = j := Option.some.inj (hd.symm.trans hj)
      rw [node?_alter_self] at hn ⊢
      obtain ⟨m, hm, rfl⟩ := Option.map_eq_some_iff.1 hn
      obtain ⟨m', hm', hgrows⟩ := ha.grows dir m hd hm
      refine ⟨m'.named name i, by rw [hm']; rfl, ?_⟩
      cases hgrows with
      | @dir _ _ more _ _ hmore =>
        obtain rfl : more = [] := List.eq_nil_iff_forall_not_mem.2 fun e he => (hmore e he).1
        rw [List.append_nil]
        exact Node.Grows.refl _
      | file hc => exact .file hc
      | link => exact .link
      | device => exact .device
  · exact ha.alter hd _

theorem addNode (ha : Alike log f g) {n : Node} (hlog : ∀ i, log = some i → i < f.nodes.size) :
    Alike log (f.addNode n).2 (g.addNode n).2 where
  cwd := ha.cwd
  size := by simp [Files.addNode, ha.size]
  node j hj := by
    rw [node?_addNode, node?_addNode, ha.node j hj, ha.size]
  grows j m hj hm := by
    have hne : j ≠ f.nodes.size := Nat.ne_of_lt (hlog j hj)
    rw [node?_addNode, if_neg hne] at hm
    rw [node?_addNode, ha.size, if_neg hne]
    exact ha.grows j m hj hm

theorem nodeAt (ha : Alike log f g) (p : Place) : g.nodeAt p = f.nodeAt p := by
  cases p with
  | found i => rfl
  | vacant dir name => exact ha.size

theorem openedAt (ha : Alike log f g) (hlog : ∀ i, log = some i → i < f.nodes.size) {p : Place}
    (hp : ∀ i, log = some i → p ≠ .found i) (append : Bool) :
    Alike log (f.openedAt append p) (g.openedAt append p) := by
  cases p with
  | found i => exact ha.alter (fun hi => hp i hi rfl) _
  | vacant dir name =>
    have hn := (ha.addNode (n := .file [] defaultMode) hlog).alter_named dir name f.nodes.size
    rw [Files.openedAt, Files.openedAt, ha.size]
    exact hn

theorem place (ha : Alike log f g) {path : String} {p : Place} (hp : f.place path = .ok p) :
    g.place path = .ok p := by
  cases p with
  | found i => exact place_of_found ha.grown hp
  | vacant dir name => exact place_of_vacant ha.grown hp id

theorem read_eq {g' : Files} (ha : Alike log f g) (hb : Alike log f g') {path : String} {p : Place}
    (hp : f.place path = .ok p) (hl : ∀ i, log = some i → p ≠ .found i) :
    g.read path = g'.read path := by
  obtain ⟨hnul, hg⟩ := resolve_of_place (ha.place hp)
  obtain ⟨-, hg'⟩ := resolve_of_place (hb.place hp)
  cases p with
  | vacant dir name =>
    simp [Files.read, openForReading, stat, find, hnul, hg, hg', Place.node]
  | found i =>
    have hi : log ≠ some i := fun h => hl i h rfl
    simp [Files.read, openForReading, stat, find, hnul, hg, hg', Place.node, ha.node i hi,
      hb.node i hi]

end Alike

end Files

end PipeShell
