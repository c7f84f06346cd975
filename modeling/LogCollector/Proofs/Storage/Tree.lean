import LogCollector.Proofs.Text.Pieces
import LogCollector.Storage.Directory

/-!
# What operations do to a tree

A node that is put at a path is found there, and everything else stays where it was. A path under
which nothing exists is free in the tree, and a copy to such a path is the file that was copied
(`copy_eq_ok`). Texts that only differ behind a stem, in a part without slashes, spell paths in the
same folder (`exists_parse_append`).
-/

namespace LogCollector.Storage

/-! ### Paths -/

/-- Texts behind a stem go on with its last name, unless they hold slashes. -/
theorem exists_splitOn_append (sep : Char) (stem : List Char) : ∃ pieces last,
    ∀ t, sep ∉ t → Text.splitOn sep (stem ++ t) = pieces ++ [last ++ t] := by
  induction stem with
  | nil => exact ⟨[], [], fun t ht => Text.splitOn_of_not_mem ht⟩
  | cons c stem ih =>
    obtain ⟨pieces, last, h⟩ := ih
    by_cases hc : c = sep
    · refine ⟨[] :: pieces, last, fun t ht => ?_⟩
      rw [List.cons_append, Text.splitOn, if_pos hc, h t ht, List.cons_append]
    · cases pieces with
      | nil =>
        refine ⟨[], c :: last, fun t ht => ?_⟩
        rw [List.cons_append, Text.splitOn, if_neg hc, h t ht]
        rfl
      | cons piece pieces =>
        refine ⟨(c :: piece) :: pieces, last, fun t ht => ?_⟩
        rw [List.cons_append, Text.splitOn, if_neg hc, h t ht]
        rfl

/-- Texts of two characters at least, behind a stem and without slashes, lead to nodes of one
folder. -/
theorem exists_parse_append (stem : String) : ∃ folder last, ∀ t : List Char, '/' ∉ t →
    2 ≤ t.length → Path.parse (stem ++ .ofList t) = folder ++ [String.ofList (last ++ t)] := by
  obtain ⟨pieces, last, h⟩ := exists_splitOn_append '/' stem.toList
  refine ⟨(pieces.map String.ofList).filter fun name => name ≠ "" ∧ name ≠ ".", last,
    fun t ht hlen => ?_⟩
  have hname : String.ofList (last ++ t) ≠ "" ∧ String.ofList (last ++ t) ≠ "." := by
    constructor
    · intro hempty
      have hlength := congrArg (fun s => s.toList.length) hempty
      simp only [String.toList_ofList, List.length_append] at hlength
      exact absurd hlength (by change _ ≠ 0; omega)
    · intro hdot
      have hlength := congrArg (fun s => s.toList.length) hdot
      simp only [String.toList_ofList, List.length_append] at hlength
      exact absurd hlength (by change _ ≠ 1; omega)
  rw [Path.parse, String.toList_append, String.toList_ofList, h t ht, List.map_append,
    List.filter_append, List.map_singleton, List.filter_cons_of_pos (by exact decide_eq_true hname),
    List.filter_nil]

namespace Directory

variable {d : Directory} {p q : Path} {x : Node}

/-! ### Nodes -/

theorem lookup_filter_of_ne (nodes : List (Path × Node)) (h : q ≠ p) :
    (nodes.filter fun (r, _) => r ≠ p).lookup q = nodes.lookup q := by
  induction nodes with
  | nil => rfl
  | cons entry nodes ih =>
    obtain ⟨r, y⟩ := entry
    by_cases hr : r = p
    · have hq : (q == r) = false := by rw [hr]; exact beq_false_of_ne h
      rw [List.filter_cons_of_neg (by simp [hr]), ih, List.lookup_cons, hq]
    · rw [List.filter_cons_of_pos (by simp [hr]), List.lookup_cons, List.lookup_cons, ih]

/-- Putting a node at a path leaves the other ones. -/
theorem node?_put_of_ne (d : Directory) (x : Node) (h : q ≠ p) :
    (d.put p x).node? q = d.node? q := by
  have hq : (q == p) = false := beq_false_of_ne h
  unfold node? put
  rw [List.lookup_cons, hq]
  split
  · rfl
  · exact lookup_filter_of_ne d.nodes h

/-- A node that is found is among the nodes of the tree. -/
theorem mem_of_node? (hp : p ≠ []) (h : d.node? p = some x) : (p, x) ∈ d.nodes := by
  rw [node?, if_neg hp, List.lookup_eq_some_iff] at h
  obtain ⟨before, after, hnodes, -⟩ := h
  rw [hnodes]
  exact List.mem_append_right before (List.mem_cons_self ..)

theorem node?_of_follow {reached : Path} {found : Option Node}
    (h : d.follow reached p = .ok found) : d.node? (reached ++ p) = found := by
  induction p generalizing reached with
  | nil =>
    rw [List.append_nil]
    exact Except.ok.inj h
  | cons name rest ih =>
    rw [follow] at h
    split at h
    · cases h
    · split at h
      · cases h
      · rw [← ih h, List.append_assoc, List.singleton_append]
    · cases h

/-- What is looked for is the node at the path. -/
theorem node?_of_find {found : Option Node} (h : d.find p = .ok found) : d.node? p = found := by
  simpa using node?_of_follow h

theorem exists_of_exists? (h : d.exists? p = true) : ∃ x, d.node? p = some x := by
  unfold exists? at h
  split at h
  · rename_i x hx
    exact ⟨x, node?_of_find hx⟩
  · cases h

/-! ### Copies -/

/-- **A copy to a path at which nothing exists** puts the content of the file there. -/
theorem copy_eq_ok {source target : Path} {d' : Directory} (h : d.copy source target = .ok d')
    (hfree : d.exists? target = false) : ∃ content, d.node? source = some (.file content) ∧
      d.node? target = none ∧ d' = d.put target (.file content) := by
  unfold copy at h
  split at h
  · cases h
  · cases h
  · rename_i content hsource
    split at h
    · cases h
    · cases h
    · rename_i htarget
      rw [exists?, htarget] at hfree
      cases hfree
    · rename_i found hfolder hfull htarget
      refine ⟨content, node?_of_find hsource, ?_, (Except.ok.inj h).symm⟩
      cases found with
      | none => exact node?_of_find htarget
      | some x =>
        rw [exists?, htarget] at hfree
        cases hfree
  · cases h

/-! ### Changes -/

end Directory

/-- A path at which two trees differ. -/
structure Change where
  /-- The path. -/
  path : Path
  /-- What stands there in the first tree. -/
  before : Option Node
  /-- What stands there in the second tree. -/
  after : Option Node
  deriving DecidableEq

namespace Directory

/-- What stands at a path of the second tree, if it does not stand there in the first one. -/
def change? (d d' : Directory) (p : Path) : Option Change :=
  if d'.node? p = d.node? p then none else some ⟨p, d.node? p, d'.node? p⟩

/-- What stands in the second tree otherwise than in the first one, a path apart. -/
def changes (d d' : Directory) (apart : Path) : List Change :=
  ((d'.nodes.map Prod.fst).filter (· ≠ apart)).filterMap (d.change? d')

variable {d d' : Directory} {apart p : Path} {x y : Node}

theorem change?_eq_none (h : d'.node? p = d.node? p) : d.change? d' p = none := if_pos h

theorem changes_eq_nil (h : ∀ q, q ≠ apart → d'.node? q = d.node? q) :
    d.changes d' apart = [] := by
  refine List.filterMap_eq_nil_iff.2 fun q hq => change?_eq_none (h q ?_)
  simpa using (List.mem_filter.1 hq).2

theorem paths_put (d : Directory) (p : Path) (x : Node) :
    (d.put p x).nodes.map Prod.fst = p :: (d.nodes.map Prod.fst).filter (· ≠ p) := by
  rw [put, List.map_cons, List.filter_map]
  rfl

/-- Beside the path that does not count, one node has been put into the tree. -/
theorem changes_put (h : ∀ q, q ≠ apart → d'.node? q = d.node? q) (hp : p ≠ apart) (hne : p ≠ [])
    (hnew : d.node? p ≠ some x) :
    d.changes ((d'.put p x).put apart y) apart = [⟨p, d.node? p, some x⟩] := by
  generalize hd'' : (d'.put p x).put apart y = d''
  have hplaced : d''.node? p = some x := by
    rw [← hd'', node?_put_of_ne _ y hp, node?_put d' x hne]
  have hother : ∀ q, q ≠ apart → q ≠ p → d''.node? q = d.node? q := by
    intro q hapart hq
    rw [← hd'', node?_put_of_ne _ y hapart, node?_put_of_ne d' x hq, h q hapart]
  have hchange : d.change? d'' p = some ⟨p, d.node? p, some x⟩ := by
    rw [change?, hplaced, if_neg fun hsame => hnew hsame.symm]
  have hrest : ((((d'.nodes.map Prod.fst).filter (· ≠ p)).filter (· ≠ apart)).filter
      (· ≠ apart)).filterMap (d.change? d'') = [] := by
    refine List.filterMap_eq_nil_iff.2 fun q hq => ?_
    simp only [List.mem_filter, decide_eq_true_eq] at hq
    exact change?_eq_none (hother q hq.2 hq.1.1.2)
  rw [changes, ← hd'', paths_put, paths_put, hd'', List.filter_cons_of_neg (by simp),
    List.filter_cons_of_pos (by simpa using hp), List.filter_cons_of_pos (by simpa using hp),
    List.filterMap_cons_some hchange, hrest]

end Directory

end LogCollector.Storage
