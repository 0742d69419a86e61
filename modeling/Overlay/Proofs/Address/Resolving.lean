/-
Resolving an address is looking through the whole index.

# Three short cuts

- A rooted path of plain names is looked up under its text. Texts of
  paths are told apart by their names (`splitOn_pathText`), since no name
  holds a slash: names of a document are spelled by characters of names,
  and names of steps pass a test of their own (`noSlash_of_parse`).
- A plain target is looked for among the elements of its local name. An
  element that fits has that name even if the step is written with a
  prefix, since a local name holds no colon (`localName_of_covers`).
- Patterns come from a cache, which cannot change an answer (`Answers`).

# Under one root

What the first two rest on is true of all entries of an index at once:
their chains begin with one and the same link, and every link is proper
(`IndexEntry.IsUnder`). It is shown along the recursion that makes the
entries, and it is the only fact about an index that is used here.
-/
import Overlay.Proofs.Address.Matching
import Overlay.Proofs.Address.Normalizing
import Overlay.Proofs.Xml.Assembling

namespace Overlay

open Text Wildcard Xml

-- ============================================================== tables

namespace ElementIndex

/-- What is gathered under a key: the values of the key, in order. -/
theorem find?_gather {α : Type} (key : String)
    (entries : List (String × α)) :
    (Table.find? key (gather entries)).getD []
      = (entries.filter (·.1 == key)).map (·.2) := by
  have hfold : ∀ t : Table (List α),
      (Table.find? key (entries.foldl (fun t e =>
        Table.insert e.1 ((Table.find? e.1 t).getD [] ++ [e.2]) t)
          t)).getD []
        = (Table.find? key t).getD []
          ++ (entries.filter (·.1 == key)).map (·.2) := by
    induction entries with
    | nil => simp
    | cons e rest ih =>
        intro t
        rw [List.foldl_cons, ih]
        by_cases h : e.1 = key
        · subst h
          simp
        · have hb : (e.1 == key) = false := by simpa using h
          rw [Table.find?_insert_of_ne h,
            List.filter_cons_of_neg (by simp [hb])]
  exact hfold []

end ElementIndex

-- ====================================================== texts of paths

/-- The path of some names, each with a slash before it. -/
def pathText (names : List (List Char)) : List Char :=
  names.flatMap ('/' :: ·)

/-- A path is its names joined with slashes, behind an empty one. -/
theorem pathText_eq_intercalate (names : List (List Char)) :
    pathText names = ['/'].intercalate ([] :: names) :=
  (intercalate_cons_eq_flatMap ['/'] [] names).symm

/-- The names of a path are read off its text. -/
theorem splitOn_pathText {names : List (List Char)}
    (h : ∀ n ∈ names, '/' ∉ n) :
    splitOn '/' (pathText names) = [] :: names := by
  rw [pathText_eq_intercalate]
  exact splitOn_intercalate (List.cons_ne_nil [] names)
    (List.forall_mem_cons.mpr ⟨List.not_mem_nil, h⟩)

/-- Paths whose names hold no slash are the same if their texts are. -/
theorem pathText_inj {xs ys : List (List Char)} (hx : ∀ n ∈ xs, '/' ∉ n)
    (hy : ∀ n ∈ ys, '/' ∉ n) : pathText xs = pathText ys ↔ xs = ys := by
  refine ⟨fun h => ?_, fun h => h ▸ rfl⟩
  have := congrArg (splitOn '/') h
  rw [splitOn_pathText hx, splitOn_pathText hy] at this
  exact (List.cons.inj this).2

/-- Names joined with slashes, behind a slash. -/
theorem toList_join_slash (names : List String) (h : names ≠ []) :
    ("/" ++ join "/" names).toList = pathText (names.map String.toList) := by
  cases names with
  | nil => exact absurd rfl h
  | cons n rest =>
      have hslash : "/".toList = ['/'] := rfl
      rw [join, String.toList_append, String.toList_intercalate, hslash,
        List.map_cons, intercalate_cons_eq_flatMap]
      rfl

/-- The path of an entry is made of the local names on its chain. -/
theorem toList_path (e : IndexEntry) :
    e.path.toList = pathText (e.chain.map fun l => l.localName.toList) := by
  have hnil : ∀ parts : List (List Char),
      ([] : List Char).intercalate parts = parts.flatten := by
    intro parts
    cases parts with
    | nil => rfl
    | cons first rest => simp [intercalate_cons_eq_flatMap]
  have hempty : "".toList = [] := rfl
  rw [IndexEntry.path, join, String.toList_intercalate, hempty, hnil,
    pathText, List.flatMap_map, List.map_map, ← List.flatMap_def]
  refine List.flatMap_congr fun l _ => ?_
  rw [Function.comp_apply, String.toList_append]
  rfl

-- ====================================================== proper entries

/-- A link as elements of a document have it: its local name is part of
its qualified name, and holds no separator. -/
structure Link.IsProper (l : Link) : Prop where
  noSlash : '/' ∉ l.localName.toList
  noColon : ':' ∉ l.localName.toList
  qualified : l.qualified = l.localName
    ∨ ∃ p, l.qualified = p ++ ":" ++ l.localName

/-- An entry whose chain is proper and begins at a root. -/
structure IndexEntry.IsUnder (root : Link) (e : IndexEntry) : Prop where
  chain : ∃ below, e.chain = root :: below
  proper : ∀ l ∈ e.chain, l.IsProper

/-- The local name of an element is part of its qualified name. -/
theorem ElementIndex.qualifiedName_eq (doc : Document) (id : Nat) :
    qualifiedName doc id = doc.localName id
      ∨ ∃ p, qualifiedName doc id = p ++ ":" ++ doc.localName id := by
  rw [qualifiedName, Document.localName]
  cases doc.name? id with
  | none => exact .inl rfl
  | some name =>
      show name.qualified = _ ∨ ∃ p, name.qualified = _
      rw [QName.qualified]
      cases name.nsPrefix with
      | none => exact .inl rfl
      | some p => exact .inr ⟨p, rfl⟩

/-- What stands in a local name of a document that was read. -/
theorem of_mem_localName {doc : Document}
    (h : ∀ id kind, doc.kind? id = some kind → kind.Spelled) {id : Nat}
    {c : Char} (hc : c ∈ (doc.localName id).toList) :
    isNameChar c = true ∧ c ≠ ':' := by
  cases he : doc.element? id with
  | none =>
      have hlocal : doc.localName id = "" := by
        simp [Document.localName, Document.name?, he]
      simp [hlocal] at hc
  | some e =>
      have hlocal : doc.localName id = e.name.localName := by
        simp [Document.localName, Document.name?, he]
      obtain ⟨kind, hk, hke⟩ := Option.bind_eq_some_iff.mp he
      obtain rfl : kind = .element e := by
        cases kind <;> simp_all [NodeKind.element?]
      have hpart := (h id _ hk).1.localPart
      rw [hlocal] at hc
      exact ⟨hpart.chars c hc, fun heq => hpart.noColon (heq ▸ hc)⟩

/-- The link of an element of a document that was read. -/
theorem isProper_of_spelled {doc : Document}
    (h : ∀ id kind, doc.kind? id = some kind → kind.Spelled)
    (id position : Nat) :
    Link.IsProper
      ⟨ElementIndex.qualifiedName doc id, doc.localName id, position⟩ :=
  ⟨fun hc => absurd (of_mem_localName h hc).1 (by decide),
    fun hc => (of_mem_localName h hc).2 rfl,
    ElementIndex.qualifiedName_eq doc id⟩

namespace ElementIndex

theorem map_fst_positions (doc : Document) (before : List String)
    (ids : List Nat) : (positions doc before ids).map (·.1) = ids := by
  induction ids generalizing before with
  | nil => rfl
  | cons id rest ih => rw [positions, List.map_cons, ih]

/-- The entries of children are those of the children. -/
theorem map_node_childEntries (doc : Document) (parent : IndexEntry) :
    (childEntries doc parent).map (·.node)
      = doc.elementChildren parent.node := by
  rw [childEntries, List.map_map]
  exact map_fst_positions doc [] _

/-- An entry of a child is that of an element child. -/
theorem mem_elementChildren_of_mem_childEntries {doc : Document}
    {parent e : IndexEntry} (he : e ∈ childEntries doc parent) :
    e.node ∈ doc.elementChildren parent.node := by
  have hmem := List.mem_map_of_mem (f := (·.node)) he
  rwa [map_node_childEntries] at hmem

/-- What holds of the root, and is handed down to children, holds of all
entries. -/
theorem entries_induct {doc : Document} {P : IndexEntry → Prop}
    (root : P (rootEntry doc))
    (child : ∀ parent, P parent → ∀ e ∈ childEntries doc parent, P e) :
    ∀ e ∈ (ofDocument doc).entries, P e := by
  have hbelow : ∀ parent, P parent → ∀ e ∈ entriesBelow doc parent, P e := by
    intro parent
    fun_induction entriesBelow doc parent with
    | case1 parent children ih =>
        intro hp e he
        rcases List.mem_append.mp he with he | he
        · exact child parent hp e he
        · obtain ⟨c, hc, he⟩ := List.mem_flatMap.mp he
          split at he
          case isTrue hlt => exact ih c hlt (child parent hp c hc) e he
          case isFalse => cases he
  intro e he
  rcases List.mem_cons.mp he with rfl | he
  · exact root
  · exact hbelow _ root e he

/-- Children are under the root that their parent is under. -/
theorem childEntries_isUnder {doc : Document}
    (h : ∀ id kind, doc.kind? id = some kind → kind.Spelled)
    {root : Link} {parent : IndexEntry} (hp : parent.IsUnder root) :
    ∀ e ∈ childEntries doc parent, e.IsUnder root := by
  intro e he
  obtain ⟨⟨id, position⟩, -, rfl⟩ := List.mem_map.mp he
  obtain ⟨below, hbelow⟩ := hp.chain
  refine ⟨⟨below ++ [_], by simp only [entryAt, hbelow]; rfl⟩, ?_⟩
  intro l hl
  rcases List.mem_append.mp hl with hl | hl
  · exact hp.proper l hl
  · rw [List.mem_singleton] at hl
    exact hl ▸ isProper_of_spelled h id position

/-- All entries of a document that was read are under its root. -/
theorem entries_isUnder {doc : Document}
    (h : ∀ id kind, doc.kind? id = some kind → kind.Spelled) :
    ∃ (root : Link) (first : IndexEntry) (others : List IndexEntry),
      (ofDocument doc).entries = first :: others
        ∧ first.chain = [root]
        ∧ ∀ e ∈ (ofDocument doc).entries, e.IsUnder root := by
  have hroot : (rootEntry doc).IsUnder
      ⟨qualifiedName doc doc.root, doc.localName doc.root, 1⟩ := by
    refine ⟨⟨[], rfl⟩, fun l hl => ?_⟩
    obtain rfl := List.mem_singleton.mp hl
    exact isProper_of_spelled h doc.root 1
  exact ⟨_, rootEntry doc, entriesBelow doc (rootEntry doc), rfl, rfl,
    entries_induct hroot fun _ hp => childEntries_isUnder h hp⟩

end ElementIndex

-- ============================================================= lookups

/-- The text of a path finds the entries with the names of the path. -/
theorem path_eq_iff {root : Link} {e : IndexEntry} (he : e.IsUnder root)
    {names : List String} (hne : names ≠ [])
    (hn : ∀ n ∈ names, '/' ∉ n.toList) :
    e.path = "/" ++ join "/" names
      ↔ e.chain.map (·.localName) = names := by
  have hmap : e.chain.map (fun l => l.localName.toList)
      = (e.chain.map (·.localName)).map String.toList := by
    rw [List.map_map]
    rfl
  rw [← String.toList_inj, toList_path, toList_join_slash names hne,
    pathText_inj (by simpa using fun l hl => (he.proper l hl).noSlash)
      (by simpa using hn), hmap]
  exact (List.map_injective_iff.mpr fun _ _ => String.toList_inj.mp).eq_iff

namespace ElementIndex

theorem nodesAt_ofEntries (entries : List IndexEntry) (path : String) :
    (ofEntries entries).nodesAt path
      = (entries.filter (·.path == path)).map (·.node) := by
  rw [nodesAt, ofEntries, find?_gather, List.filter_map, List.map_map]
  rfl

theorem named_ofEntries (entries : List IndexEntry) (name : String) :
    (ofEntries entries).named name
      = entries.filter (·.localName == name) := by
  rw [named, ofEntries, find?_gather, List.filter_map, List.map_map]
  exact List.map_id' _

end ElementIndex

-- ============================================ what resolving can reach

/-- A resolution does not depend on what the cache holds. -/
theorem resolve_answers_default (index : ElementIndex)
    (aliases : Table String) (a : Address) :
    Answers (index.resolve aliases a)
      ((index.resolve aliases a).run default).1 := by
  have hany : ∃ nodes, Answers (index.resolve aliases a) nodes := by
    rw [ElementIndex.resolve]
    split
    · exact ⟨_, .pure _⟩
    · exact ⟨_, pick_answers (pointsAt_answers a aliases) _⟩
  obtain ⟨nodes, hnodes⟩ := hany
  rw [hnodes default]
  exact hnodes

namespace ElementIndex

/-- Whatever an address is, it resolves to elements of the index, in the
order of the index. -/
theorem resolve_sublist (entries : List IndexEntry)
    (aliases : Table String) (a : Address) (cache : Cache) :
    (((ofEntries entries).resolve aliases a).run cache).1.Sublist
      (entries.map (·.node)) := by
  have hfilter : ∀ (p : IndexEntry → Bool) (es : List IndexEntry),
      es.Sublist entries →
      ((es.filter p).map (·.node)).Sublist (entries.map (·.node)) :=
    fun p es hes => (List.filter_sublist.trans hes).map _
  rw [resolve]
  split
  · show (((ofEntries entries).lookUp (a.steps.map (·.name)))).Sublist _
    rw [lookUp]
    split
    · exact List.nil_sublist _
    · split <;> rw [nodesAt_ofEntries]
        <;> exact hfilter _ entries (List.Sublist.refl _)
  · split
    · rw [pick_answers (pointsAt_answers a aliases)]
      exact hfilter _ entries (List.Sublist.refl _)
    · rw [pick_answers (pointsAt_answers a aliases), named_ofEntries]
      exact hfilter _ _ List.filter_sublist

theorem exists_entry_of_mem_resolve {entries : List IndexEntry}
    {aliases : Table String} {a : Address} {cache : Cache} {n : Nat}
    (h : n ∈ (((ofEntries entries).resolve aliases a).run cache).1) :
    ∃ e ∈ entries, e.node = n :=
  List.mem_map.mp ((resolve_sublist entries aliases a cache).subset h)

/-- All entries of a document belong to elements. -/
theorem isElement_of_mem_entries {doc : Document}
    (h : doc.isElement doc.root = true) {e : IndexEntry}
    (he : e ∈ (ofDocument doc).entries) :
    doc.isElement e.node = true :=
  entries_induct (P := fun e => doc.isElement e.node = true) h
    (fun _ _ _ he =>
      (List.mem_filter.mp (mem_elementChildren_of_mem_childEntries he)).2)
    e he

/-- Addresses resolve to elements. -/
theorem isElement_of_mem_resolve {doc : Document}
    (h : doc.isElement doc.root = true) {aliases : Table String}
    {a : Address} {cache : Cache} {n : Nat}
    (hn : n ∈ (((ofDocument doc).resolve aliases a).run cache).1) :
    doc.isElement n = true := by
  obtain ⟨e, he, rfl⟩ := exists_entry_of_mem_resolve hn
  exact isElement_of_mem_entries h he

end ElementIndex

-- ========================================================= plain paths

/-- A step of a plain path. -/
structure Step.IsPlain (s : Step) : Prop where
  notWild : s.isWildcard = false
  noPrefix : s.isPrefixed = false
  noPosition : s.position = none

/-- A step without a wildcard or a prefix fits a name. -/
theorem covers_of_name {s : Step} (hw : s.isWildcard = false)
    (hp : s.isPrefixed = false) (l : Link) :
    s.covers l = (s.name == l.localName
      && s.position.all (· == l.position)) := by
  have hw : isWild s.name = false := hw
  simp [Step.covers, isMatch, hw, hp]

theorem covers_of_isPlain {s : Step} (h : s.IsPlain) (l : Link) :
    s.covers l = (s.name == l.localName) := by
  simp [covers_of_name h.notWild h.noPrefix, h.noPosition]

/-- Plain steps fit a chain of the same names. -/
theorem stepsCover_of_isPlain {steps : List Step}
    (h : ∀ s ∈ steps, s.IsPlain) (links : List Link) :
    stepsCover steps links
      = (steps.map (·.name) == links.map (·.localName)) := by
  induction steps generalizing links with
  | nil => cases links <;> rfl
  | cons s rest ih =>
      cases links with
      | nil => rfl
      | cons l links =>
          have hs := covers_of_isPlain (h s (List.mem_cons_self ..)) l
          have hrest := ih (fun t ht => h t (List.mem_cons_of_mem s ht))
            links
          have hlen : (rest.length + 1 == links.length + 1)
              = (rest.length == links.length) := by simp
          rw [stepsCover] at hrest ⊢
          rw [List.map_cons, List.map_cons, List.cons_beq_cons, ← hs,
            ← hrest, List.zip_cons_cons, List.all_cons, List.length_cons,
            List.length_cons, hlen, Bool.and_left_comm]

theorem Address.isPlain_of_isPlainRooted {a : Address}
    (h : a.isPlainRooted = true) :
    a.shape = .rooted ∧ a.qualifier = none ∧ ∀ s ∈ a.steps, s.IsPlain := by
  simp only [isPlainRooted, isPattern, Bool.and_eq_true, beq_iff_eq,
    Bool.not_eq_eq_eq_not, Bool.not_true, Bool.or_eq_false_iff,
    List.any_eq_false, List.all_eq_true, Option.isNone_iff_eq_none] at h
  obtain ⟨⟨⟨hshape, hwild, -⟩, hq⟩, hsteps⟩ := h
  refine ⟨hshape, hq, fun s hs => ⟨by simpa using hwild s hs, ?_, ?_⟩⟩
  · exact (hsteps s hs).2
  · exact (hsteps s hs).1

/-- The entries that a plain path selects, in terms of names: those of
their chains are the names of the path, which may leave the root out. -/
theorem selects_iff_of_isPlainRooted {a : Address}
    (ha : a.isPlainRooted = true) (aliases : Table String) {root : Link}
    {e : IndexEntry} (he : e.IsUnder root) :
    a.selects aliases e = true
      ↔ e.chain.map (·.localName) = a.steps.map (·.name)
        ∨ (a.steps.map (·.name)).head? ≠ some root.localName
          ∧ e.chain.map (·.localName)
            = root.localName :: a.steps.map (·.name) := by
  obtain ⟨hshape, hq, hplain⟩ := Address.isPlain_of_isPlainRooted ha
  obtain ⟨below, hbelow⟩ := he.chain
  obtain ⟨s, rest, hsteps⟩ := List.exists_cons_of_ne_nil a.steps_ne_nil
  rw [hsteps] at hplain
  have hs := covers_of_isPlain (hplain s (List.mem_cons_self ..)) root
  simp only [Address.selects, Address.fitsNamespace, hq,
    Bool.and_true, Address.covers, hshape, hbelow, hsteps, hs,
    stepsCover_of_isPlain hplain, List.map_cons, List.head?_cons,
    Bool.or_eq_true, Bool.and_eq_true, beq_iff_eq, ne_eq,
    Option.some.injEq, List.cons.injEq, true_and, Bool.not_eq_true',
    beq_eq_false_iff_ne]
  rw [eq_comm (a := s.name) (b := root.localName),
    eq_comm (a := rest.map (·.name)),
    eq_comm (a := s.name :: rest.map (·.name))]

/-- The nodes at a path of names, if these are what selects an entry. -/
theorem nodesAt_eq_filter {root : Link} {first : IndexEntry}
    {others : List IndexEntry}
    (hentries : ∀ e ∈ first :: others, e.IsUnder root) {a : Address}
    {aliases : Table String} {names : List String} (hne : names ≠ [])
    (hnames : ∀ n ∈ names, '/' ∉ n.toList)
    (hselects : ∀ e ∈ first :: others, (a.selects aliases e = true
      ↔ e.chain.map (·.localName) = names)) :
    (ElementIndex.ofEntries (first :: others)).nodesAt
        ("/" ++ join "/" names)
      = ((first :: others).filter (a.selects aliases)).map (·.node) := by
  rw [ElementIndex.nodesAt_ofEntries]
  congr 1
  refine List.filter_congr fun e he => ?_
  rw [Bool.eq_iff_iff, beq_iff_eq, path_eq_iff (hentries e he) hne hnames,
    hselects e he]

/-- Looking a plain path up and looking for it are the same. -/
theorem lookUp_eq_filter {root : Link} {first : IndexEntry}
    {others : List IndexEntry} (hfirst : first.chain = [root])
    (hentries : ∀ e ∈ first :: others, e.IsUnder root) {a : Address}
    (ha : a.isPlainRooted = true)
    (hslash : ∀ s ∈ a.steps, '/' ∉ s.name.toList)
    (aliases : Table String) :
    (ElementIndex.ofEntries (first :: others)).lookUp (a.steps.map (·.name))
      = ((first :: others).filter (a.selects aliases)).map (·.node) := by
  have hname : first.localName = root.localName := by
    simp [IndexEntry.localName, hfirst]
  have hnames : ∀ n ∈ a.steps.map (·.name), '/' ∉ n.toList := by
    simpa using hslash
  have hselects := fun e he =>
    selects_iff_of_isPlainRooted ha aliases (hentries e he)
  have hne : a.steps.map (·.name) ≠ [] := by simpa using a.steps_ne_nil
  rw [ElementIndex.lookUp]
  simp only [ElementIndex.ofEntries, hname]
  split
  case isTrue hhead =>
      rw [beq_iff_eq] at hhead
      refine nodesAt_eq_filter hentries hne hnames fun e he => ?_
      rw [hselects e he]
      exact ⟨fun h => h.elim id fun h => absurd hhead h.1, .inl⟩
  case isFalse hhead =>
      rw [beq_iff_eq] at hhead
      have hjoin : "/" ++ root.localName ++ "/"
            ++ join "/" (a.steps.map (·.name))
          = "/" ++ join "/" (root.localName :: a.steps.map (·.name)) := by
        rw [join, join, String.intercalate_cons_of_ne_nil hne]
        simp only [String.append_assoc]
      rw [hjoin]
      refine nodesAt_eq_filter hentries (by simp) ?_ fun e he => ?_
      · intro n hn
        rcases List.mem_cons.mp hn with rfl | hn
        · have hf := hentries first (List.mem_cons_self ..)
          exact (hf.proper root (by simp [hfirst])).noSlash
        · exact hnames n hn
      · rw [hselects e he]
        refine ⟨fun h => h.elim (fun h => ?_) (·.2), fun h => .inr ⟨hhead, h⟩⟩
        -- the names of an entry begin with that of the root
        obtain ⟨below, hbelow⟩ := (hentries e he).chain
        rw [← h, hbelow] at hhead
        exact absurd rfl hhead

-- ======================================================= plain targets

/-- Steps that fit a chain fit its last link. -/
theorem getLast_of_stepsCover {steps : List Step} {links : List Link}
    (hne : steps ≠ []) (h : stepsCover steps links = true) :
    ∃ l, links.getLast? = some l ∧ (steps.getLast hne).covers l = true := by
  induction steps generalizing links with
  | nil => exact absurd rfl hne
  | cons s rest ih =>
      cases links with
      | nil => simp [stepsCover] at h
      | cons l links =>
          simp only [stepsCover, List.length_cons, List.zip_cons_cons,
            List.all_cons, Bool.and_eq_true, beq_iff_eq,
            Nat.add_right_cancel_iff] at h
          obtain ⟨hlen, hs, hrest⟩ := h
          by_cases hr : rest = []
          · subst hr
            obtain rfl := List.length_eq_zero_iff.mp hlen.symm
            exact ⟨l, rfl, hs⟩
          · have hlinks : stepsCover rest links = true := by
              simp [stepsCover, hlen, hrest]
            obtain ⟨last, hlast, hcovers⟩ := ih hr hlinks
            rw [List.getLast_cons hr, List.getLast?_cons, hlast]
            exact ⟨last, rfl, hcovers⟩

/-- The target of an address that fits a chain fits its last link. -/
theorem target_of_covers {a : Address} {chain : List Link}
    (h : a.covers chain = true) :
    ∃ l, chain.getLast? = some l ∧ a.target.covers l = true := by
  have hend : ∀ k, stepsCover a.steps (chain.drop k) = true →
      ∃ l, chain.getLast? = some l ∧ a.target.covers l = true := by
    intro k hk
    obtain ⟨l, hl, hc⟩ := getLast_of_stepsCover a.steps_ne_nil hk
    rw [List.getLast?_drop] at hl
    split at hl
    · cases hl
    · exact ⟨l, hl, hc⟩
  rw [Address.covers.eq_def] at h
  split at h
  case h_1 first rest root below hshape hsteps =>
      rw [Bool.or_eq_true, Bool.and_eq_true] at h
      rcases h with h | ⟨-, h⟩
      · exact hend 0 h
      · exact hend 1 h
  case h_2 => cases h
  case h_3 =>
      rw [Bool.and_eq_true] at h
      exact hend _ h.2

/-- An element that fits a plain target has its local name, if that holds
no colon where the target has one. -/
theorem localName_of_covers {s : Step} {l : Link}
    (hqualified : l.qualified = l.localName
      ∨ ∃ p, l.qualified = p ++ ":" ++ l.localName)
    (hcolon : s.isPrefixed = true → ':' ∉ l.localName.toList)
    (hw : s.isWildcard = false) (h : s.covers l = true) :
    l.localName = s.localName := by
  have hw : isWild s.name = false := hw
  simp only [Step.covers, isMatch, hw, Bool.false_eq_true, ↓reduceIte,
    Bool.and_eq_true, beq_iff_eq] at h
  obtain ⟨h, -⟩ := h
  rw [Step.localName]
  by_cases hp : s.isPrefixed = true
  · have hno := hcolon hp
    rw [if_pos hp] at h
    rw [Step.isPrefixed, List.contains_iff_mem, h] at hp
    rcases hqualified with hq | ⟨p, hq⟩
    · rw [hq] at hp
      exact absurd hp hno
    · have hsplit : splitLast? ':' s.name.toList
          = some (p.toList, l.localName.toList) := by
        rw [splitLast?_eq_some_iff, h, hq]
        refine ⟨?_, hno⟩
        have hcolon : ":".toList = [':'] := rfl
        simp [hcolon]
      rw [hsplit]
      simp
  · rw [if_neg hp] at h
    have hsplit : splitLast? ':' s.name.toList = none := by
      rw [splitLast?_eq_none_iff, ← List.contains_iff_mem]
      exact hp
    rw [hsplit, h]

-- =========================================================== resolving

/-- In an index whose entries are under one root, an address is resolved
by looking through all of them. -/
theorem resolve_answers {root : Link} {first : IndexEntry}
    {others : List IndexEntry} (hfirst : first.chain = [root])
    (hentries : ∀ e ∈ first :: others, e.IsUnder root) {a : Address}
    (hslash : ∀ s ∈ a.steps, '/' ∉ s.name.toList)
    (aliases : Table String) :
    Answers ((ElementIndex.ofEntries (first :: others)).resolve aliases a)
      (((first :: others).filter (a.selects aliases)).map (·.node)) := by
  rw [ElementIndex.resolve]
  split
  case isTrue ha =>
      rw [lookUp_eq_filter hfirst hentries ha hslash aliases]
      exact .pure _
  case isFalse =>
      split
      case isTrue hw => exact pick_answers (pointsAt_answers a aliases) _
      case isFalse hw =>
          have hnamed : ((first :: others).filter
                (·.localName == a.target.localName)).filter
                  (a.selects aliases)
              = (first :: others).filter (a.selects aliases) := by
            rw [List.filter_filter]
            refine List.filter_congr fun e he => ?_
            cases hsel : a.selects aliases e with
            | false => rfl
            | true =>
                rw [Address.selects, Bool.and_eq_true] at hsel
                obtain ⟨l, hl, hc⟩ := target_of_covers hsel.1
                have hproper := (hentries e he).proper l
                  (List.mem_of_getLast? hl)
                have hname := localName_of_covers hproper.qualified
                  (fun _ => hproper.noColon) (by simpa using hw) hc
                simp [IndexEntry.localName, hl, hname]
          rw [ElementIndex.named_ofEntries, ← hnamed]
          exact pick_answers (pointsAt_answers a aliases) _

-- ============================================= addresses that are read

namespace Address

/-- The steps of an address that was read hold no slash. -/
theorem noSlash_of_parse {text : String} {a : Address}
    (h : parse text = .ok a) : ∀ s ∈ a.steps, '/' ∉ s.name.toList := by
  intro s hs
  have hname := ((grammatical_of_parse h).steps s hs).name
  refine not_mem_name hname rfl ?_
  cases a.shape <;> rfl

end Address

-- ============================================= documents that are read

/-- An index of a document with names as they are read resolves an address
that was read by what amounts to a scan. -/
theorem resolve_answers_of_spelled {doc : Document}
    (hdoc : ∀ id kind, doc.kind? id = some kind → kind.Spelled)
    {text : String} {a : Address} (ha : Address.parse text = .ok a)
    (aliases : Table String) :
    Answers ((ElementIndex.ofDocument doc).resolve aliases a)
      (((ElementIndex.ofDocument doc).entries.filter
        (a.selects aliases)).map (·.node)) := by
  obtain ⟨root, first, others, hentries, hfirst, hunder⟩ :=
    ElementIndex.entries_isUnder hdoc
  have hindex : ElementIndex.ofDocument doc
      = ElementIndex.ofEntries (first :: others) := by
    rw [← hentries]
    rfl
  rw [hentries] at hunder
  rw [hindex]
  exact resolve_answers hfirst hunder (Address.noSlash_of_parse ha) aliases

/-- In particular that of a document that was read. -/
theorem resolve_answers_of_parse {s : String} {doc : Document}
    (hdoc : Document.parse s = some doc) {text : String} {a : Address}
    (ha : Address.parse text = .ok a) (aliases : Table String) :
    Answers ((ElementIndex.ofDocument doc).resolve aliases a)
      (((ElementIndex.ofDocument doc).entries.filter
        (a.selects aliases)).map (·.node)) :=
  resolve_answers_of_spelled (fun _ _ => kind_of_parse hdoc) ha aliases

/-- Resolving an address in the index of a document gives what scanning
all entries in order gives, whatever the cache holds at the beginning and
whatever it holds at each entry of the scan. A plain rooted path, in
particular, is looked up with the same result. -/
theorem resolve_eq_scan {s : String} {doc : Document}
    (hdoc : Document.parse s = some doc) {text : String} {a : Address}
    (ha : Address.parse text = .ok a) (aliases : Table String)
    (cache : Cache) (seen : IndexEntry → Cache) :
    let index := ElementIndex.ofDocument doc
    let scan := (index.entries.filter fun e =>
      ((a.fitsChain e.chain).run (seen e)).1
        && a.fitsNamespace aliases e).map (·.node)
    ((index.resolve aliases a).run cache).1 = scan
      ∧ (a.isPlainRooted = true →
          index.lookUp (a.steps.map (·.name)) = scan) := by
  intro index scan
  have hscan : scan
      = (index.entries.filter (a.selects aliases)).map (·.node) := by
    refine congrArg (List.map _) (List.filter_congr fun e _ => ?_)
    rw [fitsChain_answers a e.chain (seen e), Address.selects]
  have hresolve := resolve_answers_of_parse hdoc ha aliases cache
  rw [hscan]
  refine ⟨hresolve, fun hplain => ?_⟩
  rw [ElementIndex.resolve, if_pos hplain] at hresolve
  exact hresolve

/-- A path that is taken from the root on, in a document of two
elements. -/
theorem resolve_eq_scan_below_root :
    ∃ doc a, Document.parse "<r><b/></r>" = some doc
      ∧ Address.parse "/b" = .ok a ∧ a.isPlainRooted = true
      ∧ (let index := ElementIndex.ofDocument doc
        let scan := (index.entries.filter fun e =>
          ((a.fitsChain e.chain).run default).1
            && a.fitsNamespace [] e).map (·.node)
        ((index.resolve [] a).run default).1 = scan
          ∧ index.lookUp (a.steps.map (·.name)) = scan) := by
  have hdoc : (Document.parse "<r><b/></r>").isSome = true := by
    decide +kernel
  have ha : (Address.parse "/b").toOption.any (·.isPlainRooted) = true := by
    decide +kernel
  obtain ⟨doc, hdoc⟩ := Option.isSome_iff_exists.mp hdoc
  obtain ⟨a, ha, hplain⟩ := (Option.any_eq_true _ _).mp ha
  cases hread : Address.parse "/b" with
  | error e => simp [hread, Except.toOption] at ha
  | ok b =>
      obtain rfl : b = a := by simpa [hread, Except.toOption] using ha
      have h := resolve_eq_scan hdoc hread [] default fun _ => default
      exact ⟨doc, b, hdoc, rfl, hplain, h.1, h.2 hplain⟩

end Overlay
