/-
Documents and their trees: numbering a tree depth first and forgetting
the numbers again gives the tree back.

# The block of a tree

A tree that is added to a document whose next free number is `n` takes
the numbers `n`, `n + 1`, … without a gap. What it adds to the table is
its *block*, `Tree.nodes n parent`: the node at the top, and then the
blocks of the trees below, one after the other. The block depends on
the first number and on the parent only, so `place` is a matter of
appending (`place_eq`) once the parent has been told of its new child
(`adopt`).

# Reading a block

`doc.tree n` looks at no node outside of the block that begins at `n`.
So wherever a table holds the block of a tree, the tree is read there
(`tree_of_block`), and the table of `ofContent` is nothing but the
blocks of its trees in order (`ofContent_eq`).

`content_ofContent` closes the circle. Two documents made of content
are therefore equal exactly when their content is.
-/
import Mathlib
import Overlay.Xml.Reader

namespace Overlay.Xml

-- ============================================================== blocks

mutual

/-- The number of nodes of a tree. -/
def Tree.count : Tree → Nat
  | .element _ children => 1 + countAll children
  | .text _ => 1
  | .comment _ => 1
  | .instruction _ _ => 1

/-- The number of nodes of trees. -/
def countAll : List Tree → Nat
  | [] => 0
  | t :: rest => t.count + countAll rest

end

/-- The numbers of the trees themselves, the first one being `n`. -/
def numbers (n : Nat) : List Tree → List Nat
  | [] => []
  | t :: rest => n :: numbers (n + t.count) rest

mutual

/-- The block of a tree that gets the number `n`. -/
def Tree.nodes (n : Nat) (parent : Option Nat) : Tree → List Node
  | .element e children =>
    ⟨.element e, parent, numbers (n + 1) children⟩
      :: nodesOfAll (n + 1) (some n) children
  | .text s => [⟨.text s, parent, []⟩]
  | .comment s => [⟨.comment s, parent, []⟩]
  | .instruction t d => [⟨.instruction t d, parent, []⟩]

/-- The blocks of trees below one parent, the first one at `n`. -/
def nodesOfAll (n : Nat) (parent : Option Nat) : List Tree → List Node
  | [] => []
  | t :: rest => t.nodes n parent ++ nodesOfAll (n + t.count) parent rest

end

/-- Tells a parent, if there is one, of children behind those it has. -/
def adopt (ids : List Nat) (parent : Option Nat) (nodes : List Node) :
    List Node :=
  match parent with
  | some p =>
    nodes.modify p fun n => { n with children := n.children ++ ids }
  | none => nodes

mutual

/-- A block holds as many nodes as the tree. -/
theorem length_nodes (t : Tree) (n : Nat) (parent : Option Nat) :
    (t.nodes n parent).length = t.count := by
  cases t with
  | element e children =>
      rw [Tree.nodes, Tree.count, List.length_cons, length_nodesOfAll]
      omega
  | text s => rfl
  | comment s => rfl
  | instruction t d => rfl

/-- Blocks hold as many nodes as the trees. -/
theorem length_nodesOfAll (ts : List Tree) (n : Nat)
    (parent : Option Nat) :
    (nodesOfAll n parent ts).length = countAll ts := by
  cases ts with
  | nil => rfl
  | cons t rest =>
      rw [nodesOfAll, countAll, List.length_append, length_nodes,
        length_nodesOfAll]

end

/-- A tree has a node of its own. -/
theorem Tree.count_pos (t : Tree) : 0 < t.count := by
  cases t <;> simp [Tree.count]

theorem nodesOfAll_append (n : Nat) (parent : Option Nat)
    (xs ys : List Tree) :
    nodesOfAll n parent (xs ++ ys)
      = nodesOfAll n parent xs
        ++ nodesOfAll (n + countAll xs) parent ys := by
  induction xs generalizing n with
  | nil => simp [nodesOfAll, countAll]
  | cons t rest ih =>
      simp only [List.cons_append, nodesOfAll, countAll, ih,
        List.append_assoc, Nat.add_assoc]

theorem numbers_append (n : Nat) (xs ys : List Tree) :
    numbers n (xs ++ ys)
      = numbers n xs ++ numbers (n + countAll xs) ys := by
  induction xs generalizing n with
  | nil => simp [numbers, countAll]
  | cons t rest ih =>
      simp only [List.cons_append, numbers, countAll, ih, Nat.add_assoc]

/-- The numbers of trees lie inside their blocks. -/
theorem lt_of_mem_numbers {ts : List Tree} {n c : Nat}
    (h : c ∈ numbers n ts) : n ≤ c ∧ c < n + countAll ts := by
  induction ts generalizing n with
  | nil => cases h
  | cons t rest ih =>
      have hpos := t.count_pos
      rw [numbers, List.mem_cons] at h
      rw [countAll]
      rcases h with rfl | h
      · omega
      · have := ih h
        omega

mutual

/-- The children in a block lie inside the block. -/
theorem lt_of_mem_nodes (t : Tree) {n : Nat} {parent : Option Nat}
    {x : Node} (hx : x ∈ t.nodes n parent) :
    ∀ c ∈ x.children, c < n + t.count := by
  cases t with
  | element e children =>
      rw [Tree.nodes, List.mem_cons] at hx
      rw [Tree.count, ← Nat.add_assoc]
      rcases hx with rfl | hx
      · exact fun c hc => (lt_of_mem_numbers hc).2
      · exact lt_of_mem_nodesOfAll children hx
  | text s => simp_all [Tree.nodes]
  | comment s => simp_all [Tree.nodes]
  | instruction t d => simp_all [Tree.nodes]

/-- The children in blocks lie inside the blocks. -/
theorem lt_of_mem_nodesOfAll (ts : List Tree) {n : Nat}
    {parent : Option Nat} {x : Node}
    (hx : x ∈ nodesOfAll n parent ts) :
    ∀ c ∈ x.children, c < n + countAll ts := by
  cases ts with
  | nil => simp [nodesOfAll] at hx
  | cons t rest =>
      rw [nodesOfAll, List.mem_append] at hx
      rw [countAll]
      intro c hc
      rcases hx with hx | hx
      · have := lt_of_mem_nodes t hx c hc
        omega
      · have := lt_of_mem_nodesOfAll rest hx c hc
        omega

end

-- ====================================================== kinds of nodes

mutual

/-- Whether all nodes of a tree are of a certain kind. -/
def Tree.All (p : NodeKind → Prop) : Tree → Prop
  | .element e children => p (.element e) ∧ AllOf p children
  | .text s => p (.text s)
  | .comment s => p (.comment s)
  | .instruction t d => p (.instruction t d)

/-- Whether all nodes of trees are of a certain kind. -/
def AllOf (p : NodeKind → Prop) : List Tree → Prop
  | [] => True
  | t :: rest => t.All p ∧ AllOf p rest

end

theorem allOf_iff {p : NodeKind → Prop} {ts : List Tree} :
    AllOf p ts ↔ ∀ t ∈ ts, t.All p := by
  induction ts with
  | nil => simp [AllOf]
  | cons t rest ih => simp [AllOf, ih]

mutual

theorem Tree.All.imp {p q : NodeKind → Prop} (hpq : ∀ kind, p kind → q kind)
    {t : Tree} (h : t.All p) : t.All q := by
  cases t with
  | element e children => exact ⟨hpq _ h.1, h.2.imp hpq⟩
  | _ => exact hpq _ h

theorem AllOf.imp {p q : NodeKind → Prop} (hpq : ∀ kind, p kind → q kind)
    {ts : List Tree} (h : AllOf p ts) : AllOf q ts := by
  cases ts with
  | nil => trivial
  | cons t rest => exact ⟨h.1.imp hpq, h.2.imp hpq⟩

end

mutual

/-- The nodes of a block are those of the tree. -/
theorem kind_of_mem_nodes {p : NodeKind → Prop} (t : Tree) {n : Nat}
    {parent : Option Nat} (h : t.All p) {x : Node}
    (hx : x ∈ t.nodes n parent) : p x.kind := by
  cases t with
  | element e children =>
      rw [Tree.nodes, List.mem_cons] at hx
      rcases hx with rfl | hx
      · exact h.1
      · exact kind_of_mem_nodesOfAll children h.2 hx
  | text s => simp_all [Tree.nodes, Tree.All]
  | comment s => simp_all [Tree.nodes, Tree.All]
  | instruction t d => simp_all [Tree.nodes, Tree.All]

/-- The nodes of blocks are those of the trees. -/
theorem kind_of_mem_nodesOfAll {p : NodeKind → Prop} (ts : List Tree)
    {n : Nat} {parent : Option Nat} (h : AllOf p ts) {x : Node}
    (hx : x ∈ nodesOfAll n parent ts) : p x.kind := by
  cases ts with
  | nil => simp [nodesOfAll] at hx
  | cons t rest =>
      rw [nodesOfAll, List.mem_append] at hx
      rcases hx with hx | hx
      · exact kind_of_mem_nodes t h.1 hx
      · exact kind_of_mem_nodesOfAll rest h.2 hx

end

-- ============================================================ adopting

theorem length_adopt (ids : List Nat) (parent : Option Nat)
    (nodes : List Node) :
    (adopt ids parent nodes).length = nodes.length := by
  cases parent <;> simp [adopt]

/-- A parent in front of a block is told of its children there. -/
theorem adopt_append (ids : List Nat) (parent : Option Nat)
    {front : List Node} (back : List Node)
    (h : ∀ p, parent = some p → p < front.length) :
    adopt ids parent (front ++ back) = adopt ids parent front ++ back := by
  cases parent with
  | none => rfl
  | some p =>
      have hp := h p rfl
      simp only [adopt, List.modify_eq_take_drop]
      rw [List.take_append_of_le_length (by omega),
        List.drop_append_of_le_length (by omega)]
      cases hd : front.drop p with
      | nil =>
          rw [List.drop_eq_nil_iff] at hd
          omega
      | cons n rest => simp

/-- Children may be told of in two turns. -/
theorem adopt_adopt (xs ys : List Nat) (parent : Option Nat)
    (nodes : List Node) :
    adopt ys parent (adopt xs parent nodes)
      = adopt (xs ++ ys) parent nodes := by
  cases parent with
  | none => rfl
  | some p =>
      simp only [adopt, List.modify_modify_eq]
      congr 1
      funext n
      simp

theorem adopt_nil (parent : Option Nat) (nodes : List Node) :
    adopt [] parent nodes = nodes := by
  cases parent with
  | none => rfl
  | some p =>
      simp only [adopt, List.append_nil]
      exact List.modify_id p nodes

/-- A parent right in front of the end of the table. -/
theorem adopt_last (ids : List Nat) (nodes : List Node) (n : Node) :
    adopt ids (some nodes.length) (nodes ++ [n])
      = nodes ++ [{ n with children := n.children ++ ids }] := by
  simp [adopt, List.modify_eq_take_drop]

-- ============================================================= placing

namespace Document

/-- The document with another table. -/
def withNodes (doc : Document) (nodes : List Node) : Document :=
  { doc with nodes := nodes.toArray }

theorem withNodes_toList (doc : Document) :
    doc.withNodes doc.nodes.toList = doc := by
  simp [withNodes]

/-- Adding one node: its parent is told, and it comes last. -/
theorem push_eq (doc : Document) (kind : NodeKind) {parent : Option Nat}
    (h : ∀ p, parent = some p → p < doc.size) :
    doc.push kind parent
      = (doc.withNodes (adopt [doc.size] parent doc.nodes.toList
          ++ [⟨kind, parent, []⟩]), doc.size) := by
  cases parent with
  | none =>
      simp only [push, adopt, withNodes, size]
      congr 2
      exact Array.ext' (by simp)
  | some p =>
      have hp : p < doc.nodes.toList.length := h p rfl
      have hback := adopt_append [doc.size] (some p)
        [⟨kind, some p, []⟩] fun q hq => by cases hq; exact hp
      rw [← hback]
      simp only [push, adopt, withNodes, size, modify]
      congr 2
      exact Array.ext' (by simp)

mutual

/-- Adding a tree: its parent is told, and its block comes last. -/
theorem place_eq (t : Tree) (doc : Document) (parent : Option Nat)
    (h : ∀ p, parent = some p → p < doc.size) :
    doc.place parent t
      = doc.withNodes (adopt [doc.size] parent doc.nodes.toList
          ++ t.nodes doc.size parent) := by
  cases t with
  | element e children =>
      have hlen : (adopt [doc.size] parent doc.nodes.toList).length
          = doc.size := length_adopt ..
      have hlast := adopt_last (numbers (doc.size + 1) children)
        (adopt [doc.size] parent doc.nodes.toList)
        ⟨.element e, parent, []⟩
      rw [hlen] at hlast
      have hsize : (doc.withNodes (adopt [doc.size] parent
          doc.nodes.toList ++ [⟨.element e, parent, []⟩])).size
          = doc.size + 1 := by
        simp [withNodes, size, length_adopt]
      rw [place, push_eq doc _ h]
      simp only
      rw [placeAll_eq children _ (by rw [hsize]; omega), hsize]
      simp only [withNodes, hlast, Tree.nodes, List.append_assoc,
        List.nil_append, List.singleton_append]
  | text s => rw [place, push_eq doc _ h]; rfl
  | comment s => rw [place, push_eq doc _ h]; rfl
  | instruction t d => rw [place, push_eq doc _ h]; rfl

/-- Adding trees below a node: it is told of them all, and their blocks
come last. -/
theorem placeAll_eq (ts : List Tree) (doc : Document) {parent : Nat}
    (h : parent < doc.size) :
    doc.placeAll parent ts
      = doc.withNodes
          (adopt (numbers doc.size ts) (some parent) doc.nodes.toList
            ++ nodesOfAll doc.size (some parent) ts) := by
  cases ts with
  | nil =>
      rw [placeAll, numbers, nodesOfAll, adopt_nil, List.append_nil,
        withNodes_toList]
  | cons t rest =>
      have hlen : (adopt [doc.size] (some parent)
          doc.nodes.toList).length = doc.size := length_adopt ..
      have hsize : (doc.withNodes (adopt [doc.size] (some parent)
          doc.nodes.toList ++ t.nodes doc.size (some parent))).size
          = doc.size + t.count := by
        simp [withNodes, size, length_adopt, length_nodes]
      rw [placeAll,
        place_eq t doc (some parent) (by simpa using h),
        placeAll_eq rest _ (by rw [hsize]; omega), hsize]
      simp only [withNodes]
      rw [adopt_append _ _ _ (by simpa [hlen] using h), adopt_adopt,
        numbers, nodesOfAll, List.append_assoc, List.singleton_append]

end

/-- Adding trees without a parent: their blocks come last. -/
theorem placeFree_eq (ts : List Tree) (doc : Document) :
    doc.placeFree ts
      = (doc.withNodes (doc.nodes.toList
          ++ nodesOfAll doc.size none ts), numbers doc.size ts) := by
  induction ts generalizing doc with
  | nil =>
      rw [placeFree, nodesOfAll, List.append_nil, withNodes_toList,
        numbers]
  | cons t rest ih =>
      have hsize : (doc.withNodes (doc.nodes.toList
          ++ t.nodes doc.size none)).size = doc.size + t.count := by
        simp [withNodes, size, length_nodes]
      rw [placeFree, place_eq t doc none (by simp)]
      simp only [adopt]
      rw [ih, hsize]
      simp only [withNodes, nodesOfAll, numbers, List.append_assoc]

/-- The table of content: the blocks of its trees, one after the
other. -/
theorem ofContent_eq (c : Content) :
    ofContent c
      = { nodes :=
            (nodesOfAll 0 none (c.prolog ++ c.root :: c.epilog)).toArray
          root := countAll c.prolog
          prolog := numbers 0 c.prolog
          epilog := numbers (countAll c.prolog + c.root.count)
            c.epilog } := by
  simp only [ofContent, placeFree_eq]
  rw [place_eq c.root _ none (by simp)]
  simp only [withNodes, adopt, size, nodesOfAll_append,
    nodesOfAll, List.toList_toArray, List.nil_append, List.size_toArray,
    List.length_append, length_nodes, length_nodesOfAll,
    List.append_assoc, List.length_nil, Nat.zero_add]

-- ============================================================= reading

theorem kind?_of_block {doc : Document} {n : Nat} {x : Node}
    {rest : List Node} (h : x :: rest <+: doc.nodes.toList.drop n) :
    doc.kind? n = some x.kind ∧ doc.children n = x.children
      ∧ doc.parent? n = x.parent := by
  obtain ⟨tail, ht⟩ := h
  have hx : doc.nodes[n]? = some x := by
    rw [← Array.getElem?_toList, ← List.head?_drop, ← ht]
    rfl
  simp [kind?, children, parent?, hx]

/-- The blocks behind the first one. -/
theorem block_behind {nodes : List Node} {t : Tree} {rest : List Tree}
    {n : Nat} {parent : Option Nat}
    (h : t.nodes n parent ++ nodesOfAll (n + t.count) parent rest
      <+: nodes.drop n) :
    nodesOfAll (n + t.count) parent rest <+: nodes.drop (n + t.count) := by
  obtain ⟨tail, ht⟩ := h
  refine ⟨tail, ?_⟩
  rw [← List.drop_drop, ← ht, List.append_assoc,
    List.drop_left' (length_nodes t n parent)]

mutual

/-- Where a table holds the block of a tree, the tree is read. -/
theorem tree_of_block (t : Tree) {doc : Document} {n : Nat}
    (parent : Option Nat)
    (h : t.nodes n parent <+: doc.nodes.toList.drop n) :
    doc.tree n = t := by
  cases t with
  | element e children =>
      rw [Tree.nodes] at h
      obtain ⟨hkind, hchildren, -⟩ := kind?_of_block h
      have hbelow : nodesOfAll (n + 1) (some n) children
          <+: doc.nodes.toList.drop (n + 1) := by
        obtain ⟨tail, ht⟩ := h
        exact ⟨tail, by rw [← List.tail_drop, ← ht]; rfl⟩
      rw [tree, hkind]
      simp only [hchildren]
      rw [trees_of_blocks children (Nat.lt_succ_self n) hbelow]
  | text s =>
      rw [tree, (kind?_of_block h).1]
  | comment s =>
      rw [tree, (kind?_of_block h).1]
  | instruction t d =>
      rw [tree, (kind?_of_block h).1]

/-- Where a table holds the blocks of trees behind the node `id`, the
trees are read there. -/
theorem trees_of_blocks (ts : List Tree) {doc : Document} {id n : Nat}
    {parent : Option Nat} (hid : id < n)
    (h : nodesOfAll n parent ts <+: doc.nodes.toList.drop n) :
    ((numbers n ts).flatMap fun c =>
      if _h : id < c ∧ c < doc.size then [doc.tree c] else []) = ts := by
  cases ts with
  | nil => rfl
  | cons t rest =>
      rw [nodesOfAll] at h
      have hhead : t.nodes n parent <+: doc.nodes.toList.drop n :=
        (List.prefix_append _ _).trans h
      have htail := block_behind h
      have hpos := t.count_pos
      have hlt : n < doc.size := by
        have hlen := hhead.length_le
        rw [length_nodes, List.length_drop, Array.length_toList] at hlen
        simp only [size]
        omega
      rw [numbers, List.flatMap_cons, dif_pos ⟨hid, hlt⟩,
        tree_of_block t parent hhead, trees_of_blocks rest (by omega) htail]
      rfl

end

/-- The trees of a list of free numbers are read where their blocks
stand. -/
theorem map_tree_of_blocks (ts : List Tree) {doc : Document} {n : Nat}
    (parent : Option Nat)
    (h : nodesOfAll n parent ts <+: doc.nodes.toList.drop n) :
    (numbers n ts).map doc.tree = ts := by
  induction ts generalizing n with
  | nil => rfl
  | cons t rest ih =>
      rw [nodesOfAll] at h
      have htail := block_behind h
      rw [numbers, List.map_cons, ih htail,
        tree_of_block t parent ((List.prefix_append _ _).trans h)]

/-- Forgetting the numbers of a document made of content gives the
content back. -/
theorem content_ofContent (c : Content) : (ofContent c).content = c := by
  rw [ofContent_eq, nodesOfAll_append, nodesOfAll, Nat.zero_add]
  have hlen := length_nodesOfAll c.prolog 0 none
  rw [content]
  congr 1
  · refine map_tree_of_blocks c.prolog none ?_
    simp
  · refine tree_of_block c.root none ?_
    rw [List.toList_toArray, List.drop_left' hlen]
    exact List.prefix_append _ _
  · refine map_tree_of_blocks c.epilog none ?_
    rw [List.toList_toArray, ← List.drop_drop, List.drop_left' hlen,
      List.drop_left' (length_nodes _ _ _)]

/-- Documents made of content are told apart by their content. -/
theorem ofContent_injective : Function.Injective ofContent :=
  Function.LeftInverse.injective content_ofContent

end Document

end Overlay.Xml
