/-
Every element has a path of its own.

# Steps

The path that the index writes for an element takes a step to everything
on the way down from the root: its local name, and its position if a
sibling has that name too (`Document.step`). Whatever the index lists, its
path is the text of these steps (`toList_positional`).

# Telling elements apart

The steps to an element fit its own chain and no other one
(`eq_of_stepsCover`). Both ways are followed down from the root: by
induction the parents are one, and of the children of one parent there is
one at most with a name and a position. A step that leaves the position
out does not weaken this: its name stands once, so that the position is
the first one in any case (`position_of_not_isRepeated`).

# Reading paths

A path that is read as an address has its steps trimmed. A name may have
white space at its ends, since one character, U+1680, is white space and
may stand in names all the same. So what is read are the steps to the
element but for white space around names (`Step.trimmed`), and they lead
back to the element exactly if there is none.
-/
import Overlay.Proofs.Address.Walking

namespace Overlay

open Text Xml Wildcard

-- =========================================================== positions

section

variable {α : Type} [BEq α] [LawfulBEq α] {p : α → Bool} {x y : α}

/-- A member that counts does not count among those before it. -/
theorem countP_takeWhile_lt {xs : List α} (hx : x ∈ xs) (hp : p x = true) :
    (xs.takeWhile (· != x)).countP p < xs.countP p := by
  induction xs with
  | nil => cases hx
  | cons a xs ih =>
      by_cases hax : a = x
      · subst hax
        simp [hp]
      · have hmem : x ∈ xs := List.mem_of_ne_of_mem (Ne.symm hax) hx
        rw [List.takeWhile_cons_of_pos (by simpa using hax),
          List.countP_cons, List.countP_cons]
        exact Nat.add_lt_add_right (ih hmem) _

/-- Two members that count are one if as many count before them. -/
theorem eq_of_countP_takeWhile_eq {xs : List α} (hx : x ∈ xs) (hy : y ∈ xs)
    (hpx : p x = true) (hpy : p y = true)
    (h : (xs.takeWhile (· != x)).countP p
      = (xs.takeWhile (· != y)).countP p) : x = y := by
  induction xs with
  | nil => cases hx
  | cons a xs ih =>
      by_cases hax : a = x
      · by_cases hay : a = y
        · exact hax.symm.trans hay
        · subst hax
          simp [hay, hpx] at h
      · by_cases hay : a = y
        · subst hay
          simp [hax, hpy] at h
        · refine ih (List.mem_of_ne_of_mem (Ne.symm hax) hx)
            (List.mem_of_ne_of_mem (Ne.symm hay) hy) ?_
          rw [List.takeWhile_cons_of_pos (by simpa using hax),
            List.takeWhile_cons_of_pos (by simpa using hay),
            List.countP_cons, List.countP_cons] at h
          exact Nat.add_right_cancel h

end

namespace Xml.Document

variable {doc : Document} {x y i p : Nat}

/-- Whether a sibling of an element has its local name too. -/
def isRepeated (doc : Document) (id : Nat) : Bool :=
  match doc.parent? id with
  | some p => ((doc.elementChildren p).map doc.localName).count
      (doc.localName id) > 1
  | none => false

/-- The step of a path to an element: its local name, and its position if
that name is repeated. -/
def step (doc : Document) (id : Nat) : Step :=
  ⟨doc.localName id, if doc.isRepeated id then some (doc.position id) else none⟩

/-- The steps to an element from the root on. -/
def steps (doc : Document) (id : Nat) : List Step :=
  (doc.lineage id).reverse.map doc.step

/-- An element whose name is not repeated comes first of its name. -/
theorem position_of_not_isRepeated (hp : doc.parent? x = some p)
    (hx : x ∈ doc.elementChildren p) (h : doc.isRepeated x = false) :
    doc.position x = 1 := by
  have hlt := countP_takeWhile_lt (p := (doc.localName · == doc.localName x))
    hx (beq_self_eq_true _)
  rw [isRepeated, hp, decide_eq_false_iff_not, List.count, List.countP_map]
    at h
  have hcount : (doc.elementChildren p).countP
      (doc.localName · == doc.localName x) ≤ 1 := Nat.le_of_not_gt h
  rw [position, hp]
  show List.countP _ _ + 1 = 1
  omega

/-- Elements with one parent, one name and one position are the same. -/
theorem eq_of_position_eq (hx : x ∈ doc.elementChildren p)
    (hy : y ∈ doc.elementChildren p) (hpx : doc.parent? x = some p)
    (hpy : doc.parent? y = some p) (hname : doc.localName x = doc.localName y)
    (h : doc.position x = doc.position y) : x = y := by
  rw [position, position, hpx, hpy, hname] at h
  exact eq_of_countP_takeWhile_eq hx hy (by simpa using hname) (by simp)
    (Nat.add_right_cancel h)

end Xml.Document

-- ========================================================= steps, links

/-- Steps cover links that stand beside them and are covered by them. -/
theorem stepsCover_iff_forall₂ {steps : List Step} {links : List Link} :
    stepsCover steps links = true
      ↔ List.Forall₂ (fun s l => s.covers l = true) steps links := by
  rw [stepsCover, List.forall₂_iff_zip, Bool.and_eq_true, beq_iff_eq,
    List.all_eq_true, Prod.forall]

/-- Along two ways up, step by step. -/
theorem stepsCover_lineage_iff {doc : Document} {step : Nat → Step}
    {x y : Nat} :
    stepsCover ((doc.lineage x).reverse.map step) (doc.chain y) = true
      ↔ List.Forall₂ (fun i j => (step i).covers (doc.link j) = true)
        (doc.lineage x) (doc.lineage y) := by
  rw [stepsCover_iff_forall₂, Document.chain, List.forall₂_map_left_iff,
    List.forall₂_map_right_iff, List.forall₂_reverse_iff]

/-- A name without white space at its ends, and its position. -/
def Step.trimmed (s : Step) : Step := ⟨trim s.name, s.position⟩

section Spelled

variable {doc : Document} {x y : Nat}
  (hspelled : ∀ id kind, doc.kind? id = some kind → kind.Spelled)

include hspelled

/-- Marks of addresses do not stand in names of a document. -/
theorem not_mem_localName {c : Char} (hc : isNameChar c = false) (i : Nat) :
    c ∉ (doc.localName i).toList := fun hmem => by
  rw [(of_mem_localName hspelled hmem).1] at hc
  cases hc

/-- A step that is named by characters of a local name fits the elements
of its name, in its position if it gives one. -/
theorem covers_iff_of_subset {s : Step} {l : Link} {i : Nat}
    (hsub : s.name.toList ⊆ (doc.localName i).toList) :
    s.covers l = true
      ↔ s.name = l.localName ∧ ∀ n, s.position = some n → n = l.position := by
  have hw : s.isWildcard = false := by
    rw [Step.isWildcard, isWild, Bool.eq_false_iff, ne_eq,
      List.contains_iff_mem]
    exact fun hc => not_mem_localName hspelled (by decide) i (hsub hc)
  have hp : s.isPrefixed = false := by
    rw [Step.isPrefixed, Bool.eq_false_iff, ne_eq, List.contains_iff_mem]
    exact fun hc => (of_mem_localName hspelled (hsub hc)).2 rfl
  rw [covers_of_name hw hp, Bool.and_eq_true, beq_iff_eq]
  refine and_congr_right fun _ => ?_
  cases s.position <;> simp

/-- A step to an element fits the elements of its name. -/
theorem covers_step_iff {l : Link} (i : Nat) :
    (doc.step i).covers l = true
      ↔ doc.localName i = l.localName
        ∧ ∀ n, (doc.step i).position = some n → n = l.position := by
  have hsub : (doc.step i).name.toList ⊆ (doc.localName i).toList :=
    List.Subset.refl _
  exact covers_iff_of_subset hspelled hsub

/-- A step to an element fits it. -/
theorem covers_step_self (i : Nat) :
    (doc.step i).covers (doc.link i) = true := by
  refine (covers_step_iff hspelled i).mpr ⟨rfl, fun n hn => ?_⟩
  simp only [Document.step, Option.ite_none_right_eq_some,
    Option.some.injEq] at hn
  exact hn.2.symm

/-- With its name trimmed it does if there was nothing to trim. -/
theorem covers_trimmed_self (i : Nat) :
    (doc.step i).trimmed.covers (doc.link i) = true
      ↔ trim (doc.localName i) = doc.localName i := by
  have hsub : (doc.step i).trimmed.name.toList
      ⊆ (doc.localName i).toList := fun c hc => by
    rw [Step.trimmed, trim, String.toList_ofList] at hc
    exact mem_of_mem_trimList hc
  have hself := (covers_step_iff hspelled i).mp (covers_step_self hspelled i)
  rw [covers_iff_of_subset hspelled hsub]
  exact and_iff_left hself.2

/-- Among the children of one parent, a step fits one element. -/
theorem eq_of_covers_step {p : Nat} (hx : x ∈ doc.elementChildren p)
    (hy : y ∈ doc.elementChildren p) (hpx : doc.parent? x = some p)
    (hpy : doc.parent? y = some p)
    (h : (doc.step x).covers (doc.link y) = true) : x = y := by
  obtain ⟨hname, hposition⟩ := (covers_step_iff hspelled x).mp h
  have hname : doc.localName x = doc.localName y := hname
  refine Document.eq_of_position_eq hx hy hpx hpy hname ?_
  cases hr : doc.isRepeated x with
  | true => exact hposition _ (by rw [Document.step, hr, if_pos rfl])
  | false =>
      -- the name stands once, and so in first position only
      have hry : doc.isRepeated y = false := by
        rw [Document.isRepeated, hpx] at hr
        rw [Document.isRepeated, hpy, ← hname]
        exact hr
      rw [Document.position_of_not_isRepeated hpx hx hr,
        Document.position_of_not_isRepeated hpy hy hry]

/-- The steps to an attached element fit the chain of no other one. -/
theorem eq_of_stepsCover (hl : doc.Linked) (hx : doc.isElement x = true)
    (hy : doc.isElement y = true) (hxa : doc.isAttached x = true)
    (hya : doc.isAttached y = true)
    (h : stepsCover (doc.steps x) (doc.chain y) = true) : x = y := by
  rw [Document.steps, stepsCover_lineage_iff] at h
  have hmem : ∀ {i p : Nat}, doc.isElement i = true →
      doc.parent? i = some p → i ∈ doc.elementChildren p :=
    fun hi hp => List.mem_filter.mpr ⟨(hl.parent _ _ hp).1, hi⟩
  induction x using Nat.strong_induction_on generalizing y with
  | _ x ih =>
      cases hpx : doc.parent? x with
      | none =>
          rw [Document.lineage_of_none hpx] at h
          cases hpy : doc.parent? y with
          | none =>
              rw [(Document.isAttached_of_none hpx).mp hxa,
                (Document.isAttached_of_none hpy).mp hya]
          | some q =>
              rw [hl.lineage_of_parent hpy] at h
              obtain ⟨up, hup⟩ := doc.exists_lineage q
              simp [hup] at h
      | some p =>
          rw [hl.lineage_of_parent hpx] at h
          cases hpy : doc.parent? y with
          | none =>
              obtain ⟨up, hup⟩ := doc.exists_lineage p
              simp [Document.lineage_of_none hpy, hup] at h
          | some q =>
              rw [hl.lineage_of_parent hpy, List.forall₂_cons] at h
              have hpq : p = q := ih p (hl.lt hpx) (hl.parent x p hpx).2
                (hl.parent y q hpy).2
                ((hl.isAttached_of_parent hpx).mp hxa)
                ((hl.isAttached_of_parent hpy).mp hya) h.2
              subst hpq
              exact eq_of_covers_step hspelled (hmem hx hpx) (hmem hy hpy)
                hpx hpy h.1

/-- The steps to an element fit its own chain. -/
theorem stepsCover_self (x : Nat) :
    stepsCover (doc.steps x) (doc.chain x) = true := by
  rw [Document.steps, stepsCover_lineage_iff, List.forall₂_same]
  exact fun i _ => covers_step_self hspelled i

end Spelled

-- ====================================================== steps as texts

namespace Step

/-- A step whose name holds none of the marks that paths are made of. -/
def IsUnmarked (s : Step) : Prop :=
  ∀ c ∈ ['/', '@', '[', ']'], c ∉ s.name.toList

/-- Marks that are no brackets do not stand in the text either. -/
theorem IsUnmarked.not_mem_render {s : Step} (h : s.IsUnmarked) {c : Char}
    (hc : c ∈ ['/', '@']) : c ∉ s.render.toList := by
  intro hmem
  simp only [List.mem_cons, List.not_mem_nil, or_false] at hc
  rcases mem_render hmem with hmem | hmem | rfl | rfl
  · exact h c (by rcases hc with rfl | rfl <;> simp) hmem
  · rcases hc with rfl | rfl <;> cases hmem
  · rcases hc with hc | hc <;> cases hc
  · rcases hc with hc | hc <;> cases hc

/-- Steps are told apart by their texts. -/
theorem eq_of_render {s t : Step} (hs : s.IsUnmarked) (ht : t.IsUnmarked)
    (h : s.render.toList = t.render.toList) : s = t := by
  -- the name is what stands before the bracket
  have hfront : ∀ {s : Step}, s.IsUnmarked →
      s.render.toList.takeWhile (· != '[') = s.name.toList := by
    intro s hs
    rw [toList_render]
    refine takeWhile_front (fun c hc => ?_) fun c hc => ?_
    · have hne : c ≠ '[' := fun heq => hs '[' (by simp) (heq ▸ hc)
      simpa using hne
    · cases hp : s.position with
      | none => simp [hp] at hc
      | some p =>
          obtain rfl : '[' = c := by simpa [hp] using hc
          rfl
  have hname : s.name = t.name := by
    rw [← String.toList_inj, ← hfront hs, ← hfront ht, h]
  rw [toList_render, toList_render, hname, List.append_cancel_left_eq] at h
  obtain ⟨name, position⟩ := s
  obtain ⟨name', position'⟩ := t
  obtain rfl : name = name' := hname
  cases position with
  | none => cases position' <;> simp_all
  | some p =>
      cases position' with
      | none => simp at h
      | some q =>
          have hdigits : Nat.toDigits 10 p = Nat.toDigits 10 q := by
            simpa using h
          have hvalue := congrArg Decimal.natural? hdigits
          rw [Decimal.natural?_toDigits, Decimal.natural?_toDigits] at hvalue
          rw [hvalue]

/-- So are lists of them. -/
theorem eq_of_map_render {ss ts : List Step} (hs : ∀ s ∈ ss, s.IsUnmarked)
    (ht : ∀ t ∈ ts, t.IsUnmarked)
    (h : ss.map (·.render.toList) = ts.map (·.render.toList)) : ss = ts := by
  induction ss generalizing ts with
  | nil => exact (List.map_eq_nil_iff.mp h.symm).symm
  | cons s ss ih =>
      cases ts with
      | nil => cases h
      | cons t ts =>
          obtain ⟨hs, hss⟩ := List.forall_mem_cons.mp hs
          obtain ⟨ht, hts⟩ := List.forall_mem_cons.mp ht
          obtain ⟨hhead, htail⟩ := List.cons.inj h
          rw [eq_of_render hs ht hhead, ih hss hts htail]

end Step

namespace Address

/-- White space in front of the name is all that trimming drops from a step
with a position. -/
theorem trimList_numbered (name digits : List Char) :
    trimList (name ++ ('[' :: digits ++ [']']))
      = (name.dropWhile isBlank ++ '[' :: digits) ++ [']'] := by
  have hfront : (name ++ ('[' :: digits ++ [']'])).dropWhile isBlank
      = (name.dropWhile isBlank ++ '[' :: digits) ++ [']'] := by
    rw [List.dropWhile_append]
    split
    case isTrue hall =>
        rw [List.isEmpty_iff.mp hall]
        rfl
    case isFalse => simp
  rw [trimList, hfront, dropEndWhile_append_cons (by decide)]
  rfl

/-- The parts of a step whose text was trimmed are its own, but for white
space around the name. -/
theorem of_splitPosition_trimmed {s : Step} (hs : s.IsUnmarked)
    {name : List Char} {position : Option Nat}
    (h : splitPosition (trimList s.render.toList) = .ok (name, position)) :
    trimList name = trimList s.name.toList ∧ position = s.position := by
  have hopening : '[' ∉ s.name.toList := hs _ (by simp)
  have hclosing : ']' ∉ s.name.toList := hs _ (by simp)
  rw [Step.toList_render] at h
  cases hp : s.position with
  | none =>
      rw [hp, Option.elim_none, List.append_nil, splitPosition] at h
      have hplain : before? [']'] (trimList s.name.toList) = none := by
        rw [Option.eq_none_iff_forall_ne_some]
        intro front hfront
        rw [before?_eq_some_iff] at hfront
        exact hclosing (mem_of_mem_trimList (by simp [hfront]))
      rw [hplain] at h
      cases h
      exact ⟨trimList_trimList _, rfl⟩
  | some p =>
      have hfront : '[' ∉ s.name.toList.dropWhile isBlank := fun hmem =>
        hopening ((List.dropWhile_suffix isBlank).subset hmem)
      have hdigits : trimList (Nat.toDigits 10 p) = Nat.toDigits 10 p :=
        trimList_of_forall fun c hc => isBlank_of_isAsciiDigit
          (Decimal.isAsciiDigit_of_mem_toDigits hc)
      rw [hp, Option.elim_some, trimList_numbered, splitPosition,
        before?_eq_some_iff.mpr rfl] at h
      simp only [splitFirst?_eq_some_iff.mpr ⟨rfl, hfront⟩, hdigits,
        Decimal.unsigned?_toDigits_eq] at h
      split at h
      case h_1 => cases h
      case h_2 => cases h
      case h_3 q _ hq =>
          cases h
          refine ⟨?_, (Option.filter_eq_some_iff.mp hq).1.symm⟩
          rw [trimList, List.dropWhile_idempotent, ← trimList]

/-- A step that is read from the text of another one is that step with
its name trimmed. -/
theorem eq_trimmed_of_readStep {shape : Shape} {s t : Step}
    (hs : s.IsUnmarked) (h : readStep shape s.render.toList = .ok t) :
    t = s.trimmed := by
  unfold readStep at h
  dsimp only at h
  rcases ite_eq_iff.mp h with ⟨-, h⟩ | ⟨-, h⟩
  · cases h
  obtain ⟨⟨name, position⟩, hsplit, h⟩ := ok_of_bind h
  dsimp only at h
  split at h
  case isFalse => cases h
  case isTrue hname =>
      cases h
      obtain ⟨hname', rfl⟩ := of_splitPosition_trimmed hs hsplit
      rw [Step.trimmed, trim, ← hname',
        trimList_of_forall fun _ => isBlank_of_mem_name hname]

theorem readStep_dropEndWhile (shape : Shape) (raw : List Char) :
    readStep shape (dropEndWhile isBlank raw) = readStep shape raw := by
  rw [readStep, readStep, trimList_dropEndWhile]

/-- Trimming a path trims its last part at the end. -/
theorem trimList_pathText (parts : List (List Char)) (last : List Char) :
    trimList (pathText (parts ++ [last]))
      = pathText (parts ++ [dropEndWhile isBlank last]) := by
  have hfirst : ∀ c ∈ (pathText (parts ++ [last])).head?,
      isBlank c = false := by
    intro c hc
    obtain rfl : '/' = c := by cases parts <;> simpa [pathText] using hc
    rfl
  have hconcat : ∀ part, pathText (parts ++ [part])
      = pathText parts ++ '/' :: part := by simp [pathText]
  rw [trimList, dropWhile_of_head hfirst, hconcat, hconcat,
    dropEndWhile_append_cons (by decide)]

/-- The parts of a path are what is read as steps from the root on. -/
theorem of_splitSteps_pathText {parts raws : List (List Char)}
    (hne : parts ≠ []) (hslash : ∀ part ∈ parts, '/' ∉ part) {shape : Shape}
    (h : splitSteps (pathText parts) = .ok (shape, raws)) :
    shape = .rooted ∧ raws = parts := by
  have hsplit := splitOn_pathText hslash
  unfold splitSteps at h
  split at h
  case h_1 => cases h
  case h_2 rest _ hpath =>
      cases h
      have hfront : splitOn '/' ([] ++ '/' :: rest) = [] :: splitOn '/' rest :=
        splitOn_append List.not_mem_nil rest
      rw [hpath] at hsplit
      exact ⟨rfl, (List.cons.inj (hfront.symm.trans hsplit)).2⟩
  case h_3 _ hother =>
      obtain ⟨part, rest, rfl⟩ := List.exists_cons_of_ne_nil hne
      exact absurd rfl (hother _)

/-- The address that is read from the text of some steps takes these steps
from the root on, with their names trimmed. -/
theorem of_parse_pathText {steps : List Step} (hne : steps ≠ [])
    (hsteps : ∀ s ∈ steps, s.IsUnmarked) {text : String}
    (htext : text.toList = pathText (steps.map (·.render.toList)))
    {a : Address} (h : parse text = .ok a) :
    a.qualifier = none ∧ a.shape = .rooted
      ∧ a.steps = steps.map Step.trimmed := by
  obtain ⟨unqualified, path, raws, hqualifier, hattr, hsplit, hmapM⟩ :=
    stages_of_parse h
  have hmark : ∀ part ∈ steps.map (·.render.toList), ∀ c ∈ ['/', '@'],
      c ∉ part := by
    intro part hpart c hc
    obtain ⟨s, hs, rfl⟩ := List.mem_map.mp hpart
    exact (hsteps s hs).not_mem_render hc
  obtain ⟨front, last, rfl⟩ :=
    (List.eq_nil_or_concat' steps).resolve_left hne
  rw [List.map_append, List.map_singleton] at htext hmark
  have htrim := trimList_pathText (front.map (·.render.toList))
    last.render.toList
  -- there is no qualifier and no attribute
  have hbrace : ∀ rest, trimList text.toList ≠ '{' :: rest := by
    intro rest
    rw [htext, htrim]
    cases front <;> simp [pathText]
  rw [splitQualifier_of_ne hbrace] at hqualifier
  obtain ⟨hq, rfl⟩ := Prod.mk.inj (Except.ok.inj hqualifier)
  have hat : '@' ∉ trimList text.toList := by
    intro hmem
    have hmem := mem_of_mem_trimList hmem
    rw [htext, pathText, List.mem_flatMap] at hmem
    obtain ⟨part, hpart, hc⟩ := hmem
    rcases List.mem_cons.mp hc with hc | hc
    · cases hc
    · exact hmark part hpart _ (by simp) hc
  rw [splitAttribute, splitLast?_eq_none_iff.mpr hat] at hattr
  obtain ⟨-, rfl⟩ := Prod.mk.inj (Except.ok.inj hattr)
  -- what is split is the path with its last part trimmed at the end
  rw [htext, htrim] at hsplit
  have hslash : ∀ part ∈ front.map (·.render.toList)
      ++ [dropEndWhile isBlank last.render.toList], '/' ∉ part := by
    intro part hpart hc
    rcases List.mem_append.mp hpart with hpart | hpart
    · exact hmark part (List.mem_append_left _ hpart) _ (by simp) hc
    · rw [List.mem_singleton.mp hpart] at hc
      exact hmark last.render.toList (by simp) _ (by simp)
        ((List.rdropWhile_prefix isBlank _).subset hc)
  obtain ⟨hshape, rfl⟩ := of_splitSteps_pathText (by simp) hslash hsplit
  have hmapM : (front ++ [last]).mapM
      (fun s => readStep a.shape s.render.toList) = .ok a.steps := by
    simpa only [List.mapM_append, List.mapM_map, List.mapM_cons,
      List.mapM_nil, Function.comp_def, readStep_dropEndWhile] using hmapM
  exact ⟨hq.symm, hshape, eq_map_of_mapM hmapM fun s hs t ht =>
    eq_trimmed_of_readStep (hsteps s hs) ht⟩

end Address

-- =============================================================== index

namespace ElementIndex

variable {doc : Document}

/-- The path of an entry is the text of the steps to its element. -/
theorem toList_positional (h : doc.Linked) {e : IndexEntry}
    (he : e ∈ (ofDocument doc).entries) :
    e.positional.toList
      = pathText ((doc.steps e.node).map (·.render.toList)) := by
  have hslash : "/".toList = ['/'] := rfl
  refine entries_induct (P := fun e => e.positional.toList
    = pathText ((doc.steps e.node).map (·.render.toList))) ?_
    (fun parent ih e he => ?_) e he
  · have hsteps : doc.steps doc.root = [⟨doc.localName doc.root, none⟩] := by
      rw [Document.steps, Document.lineage_of_none h.root,
        List.reverse_singleton, List.map_singleton, Document.step,
        Document.isRepeated, h.root]
      rfl
    show ("/" ++ doc.localName doc.root).toList
      = pathText ((doc.steps doc.root).map _)
    rw [hsteps, String.toList_append, hslash]
    simp [pathText, Step.render]
  · have hparent := h.parent?_of_mem_elementChildren
      (mem_elementChildren_of_mem_childEntries he)
    have hown : (doc.step e.node).render
        = if ((doc.elementChildren parent.node).map doc.localName).count
              (doc.localName e.node) > 1
          then doc.localName e.node ++ "["
            ++ toString (doc.position e.node) ++ "]"
          else doc.localName e.node := by
      rw [Document.step, Document.isRepeated, hparent, Step.render]
      split <;> simp_all
    have hpath := congrArg IndexEntry.positional
      (eq_entryAt_of_mem_childEntries h he)
    rw [hpath]
    show (parent.positional ++ "/" ++ _).toList = _
    rw [← hown, String.toList_append, String.toList_append, ih, hslash,
      Document.steps, Document.steps, h.lineage_of_parent hparent,
      List.reverse_cons, List.map_append, List.map_append]
    simp [pathText]

end ElementIndex

-- ================================================== elements by their paths

section

variable {doc : Document} {x y : Nat}
  (hspelled : ∀ id kind, doc.kind? id = some kind → kind.Spelled)

include hspelled

theorem isUnmarked_step (i : Nat) : (doc.step i).IsUnmarked := by
  intro c hc
  refine not_mem_localName hspelled ?_ i
  simp only [List.mem_cons, List.not_mem_nil, or_false] at hc
  rcases hc with rfl | rfl | rfl | rfl <;> decide

theorem isUnmarked_of_mem_steps (x : Nat) :
    ∀ s ∈ doc.steps x, s.IsUnmarked := by
  intro s hs
  obtain ⟨i, -, rfl⟩ := List.mem_map.mp hs
  exact isUnmarked_step hspelled i

/-- Elements whose steps have one text are the same. -/
theorem eq_of_pathText_eq (hl : doc.Linked) (hx : doc.isElement x = true)
    (hy : doc.isElement y = true) (hxa : doc.isAttached x = true)
    (hya : doc.isAttached y = true)
    (h : pathText ((doc.steps x).map (·.render.toList))
      = pathText ((doc.steps y).map (·.render.toList))) : x = y := by
  have hunmarked := isUnmarked_of_mem_steps hspelled
  have hslash : ∀ i, ∀ part ∈ (doc.steps i).map (·.render.toList),
      '/' ∉ part := by
    intro i part hpart
    obtain ⟨s, hs, rfl⟩ := List.mem_map.mp hpart
    exact (hunmarked i s hs).not_mem_render (by simp)
  rw [pathText_inj (hslash x) (hslash y)] at h
  refine eq_of_stepsCover hspelled hl hx hy hxa hya ?_
  rw [Step.eq_of_map_render (hunmarked x) (hunmarked y) h]
  exact stepsCover_self hspelled y

/-- The address that is read from the path of an element leads there if no
name on the way has white space at its ends, and then nowhere else. -/
theorem pointsTo_of_parse_path (hl : doc.Linked)
    (hx : doc.isElement x = true) (hxa : doc.isAttached x = true)
    {text : String}
    (htext : text.toList = pathText ((doc.steps x).map (·.render.toList)))
    {a : Address} (ha : Address.parse text = .ok a)
    (aliases : Table String) :
    (a.pointsTo aliases doc x = true
        ↔ ∀ l ∈ doc.chain x, trim l.localName = l.localName)
      ∧ (a.pointsTo aliases doc x = true → ∀ y, doc.isElement y = true →
          doc.isAttached y = true → a.pointsTo aliases doc y = true →
          x = y) := by
  -- ways up end at the root, so chains and steps begin there
  have hroot : ∀ {i}, doc.isAttached i = true →
      ∃ below, (doc.lineage i).reverse = doc.root :: below := fun hi =>
    List.head?_eq_some_iff.mp
      (List.head?_reverse.trans (hl.getLast?_lineage.mp hi))
  obtain ⟨rest, hrest⟩ := hroot hxa
  have hne : doc.steps x ≠ [] := by simp [Document.steps, hrest]
  obtain ⟨hq, hshape, hsteps⟩ := Address.of_parse_pathText hne
    (isUnmarked_of_mem_steps hspelled x) htext ha
  rw [Document.steps, List.map_map] at hsteps
  have hpoints : ∀ {y}, doc.isAttached y = true →
      (a.pointsTo aliases doc y = true
        ↔ stepsCover a.steps (doc.chain y) = true
          ∨ (doc.step doc.root).trimmed.covers (doc.link doc.root) = false
            ∧ stepsCover a.steps (doc.chain y).tail = true) := by
    intro y hya
    obtain ⟨below, hbelow⟩ := hroot hya
    have hchain : doc.chain y
        = doc.link doc.root :: below.map doc.link := by
      rw [Document.chain, hbelow, List.map_cons]
    simp [Address.pointsTo, Address.selects, Address.fitsNamespace, hq,
      Document.entry, ElementIndex.entryAt, Address.covers, hshape, hsteps,
      hrest, hchain]
  have hcovered : (a.pointsTo aliases doc x = true)
      ↔ ∀ i ∈ doc.lineage x, trim (doc.localName i) = doc.localName i := by
    rw [hpoints hxa, or_iff_left]
    · rw [hsteps, stepsCover_lineage_iff, List.forall₂_same]
      exact forall₂_congr fun i _ => covers_trimmed_self hspelled i
    · -- a chain is longer than what is below its root
      rintro ⟨-, h⟩
      have hlen := (stepsCover_iff_forall₂.mp h).length_eq
      rw [hsteps, Document.chain] at hlen
      simp [hrest] at hlen
  refine ⟨hcovered.trans (by simp [Document.chain, Document.link]),
    fun hpx y hy hya hpy => ?_⟩
  have htrim := hcovered.mp hpx
  have hplain : a.steps = doc.steps x := by
    rw [hsteps, Document.steps]
    refine List.map_congr_left fun i hi => ?_
    rw [Function.comp_apply, Step.trimmed, Document.step,
      htrim i (List.mem_reverse.mp hi)]
  have hmem : doc.root ∈ doc.lineage x := by
    rw [← List.mem_reverse, hrest]
    exact List.mem_cons_self ..
  have hfirst := (covers_trimmed_self hspelled doc.root).mpr
    (htrim doc.root hmem)
  rcases (hpoints hya).mp hpy with h | ⟨h, -⟩
  · exact eq_of_stepsCover hspelled hl hx hy hxa hya (hplain ▸ h)
  · rw [hfirst] at h
    cases h

end

-- ============================================= documents that are read

namespace ElementIndex

variable {s : String} {doc : Document} {e f : IndexEntry}

theorem nodup_entries_of_parse (hdoc : Document.parse s = some doc) :
    ((ofDocument doc).entries.map (·.node)).Nodup :=
  List.pairwise_map.mpr ((entries_precedes hdoc).imp fun h => h.parents.ne)

/-- No two entries have one path. -/
theorem eq_of_positional_eq (hdoc : Document.parse s = some doc)
    (he : e ∈ (ofDocument doc).entries) (hf : f ∈ (ofDocument doc).entries)
    (h : f.positional = e.positional) : f = e := by
  have hl := Document.linked_of_parse hdoc
  have hroot := (Document.sound_of_parse hdoc).root
  have he' := isOf_of_mem_entries hl hroot he
  have hf' := isOf_of_mem_entries hl hroot hf
  refine List.inj_on_of_nodup_map (nodup_entries_of_parse hdoc) hf he ?_
  refine eq_of_pathText_eq (fun _ _ => kind_of_parse hdoc) hl hf'.element
    he'.element hf'.attached he'.attached ?_
  rw [← toList_positional hl hf, ← toList_positional hl he, h]

/-- So the first entry with a path is the one that the path is taken
from. -/
theorem nodeAtPosition?_positional (hdoc : Document.parse s = some doc)
    (he : e ∈ (ofDocument doc).entries) :
    (ofDocument doc).nodeAtPosition? e.positional = some e.node := by
  rw [nodeAtPosition?]
  cases hfind : (ofDocument doc).entries.find?
      (·.positional == e.positional) with
  | none => simpa using List.find?_eq_none.mp hfind e he
  | some f =>
      have hpath : f.positional = e.positional := by
        simpa using List.find?_some hfind
      rw [Option.map_some, eq_of_positional_eq hdoc he
        (List.mem_of_find?_eq_some hfind) hpath]

/-- What a path resolves to. -/
theorem resolve_positional_eq_iff (hdoc : Document.parse s = some doc)
    (he : e ∈ (ofDocument doc).entries) {a : Address}
    (ha : Address.parse e.positional = .ok a) (aliases : Table String)
    (cache : Cache) :
    (((ofDocument doc).resolve aliases a).run cache).1 = [e.node]
      ↔ ∀ l ∈ e.chain, trim l.localName = l.localName := by
  have hl := Document.linked_of_parse hdoc
  have hs := Document.sound_of_parse hdoc
  have hspelled : ∀ id kind, doc.kind? id = some kind → kind.Spelled :=
    fun _ _ => kind_of_parse hdoc
  have hof := isOf_of_mem_entries hl hs.root he
  obtain ⟨hpoints, honly⟩ := pointsTo_of_parse_path hspelled hl hof.element
    hof.attached (toList_positional hl he) ha aliases
  have hmem : ∀ id, id ∈ (((ofDocument doc).resolve aliases a).run cache).1
      ↔ doc.isElement id = true ∧ doc.isAttached id = true
        ∧ a.pointsTo aliases doc id = true := fun _ =>
    mem_resolve_iff hl hs hspelled ha
  rw [hof.chain, ← hpoints]
  constructor
  · intro hone
    exact ((hmem e.node).mp (by rw [hone]; simp)).2.2
  · intro hself
    have hnodup : (((ofDocument doc).resolve aliases a).run cache).1.Nodup :=
      (nodup_entries_of_parse hdoc).sublist
        (resolve_sublist (ofDocument doc).entries aliases a cache)
    refine List.perm_singleton.mp ((List.perm_ext_iff_of_nodup hnodup
      (List.nodup_singleton _)).mpr fun id => ?_)
    rw [hmem id, List.mem_singleton]
    constructor
    · rintro ⟨helement, hattached, hpoint⟩
      exact (honly hself id helement hattached hpoint).symm
    · rintro rfl
      exact ⟨hof.element, hof.attached, hself⟩

end ElementIndex

/-- The index of a document that was read lists every attached element
once, with the links on the way down to it. No other element has its path,
which therefore finds it; and if the path can be read as an address, that
address resolves to the element and nothing else exactly if no local name
on the way down begins or ends with white space. -/
theorem index_tells_elements_apart {s : String} {doc : Document}
    (hdoc : Document.parse s = some doc) :
    let index := ElementIndex.ofDocument doc
    (index.entries.map (·.node)).Nodup
      ∧ (∀ id, id ∈ index.entries.map (·.node)
          ↔ doc.isElement id = true ∧ doc.isAttached id = true)
      ∧ ∀ e ∈ index.entries,
          e.chain = doc.chain e.node
            ∧ (∀ f ∈ index.entries, f.positional = e.positional → f = e)
            ∧ index.nodeAtPosition? e.positional = some e.node
            ∧ ∀ a, Address.parse e.positional = .ok a → ∀ aliases cache,
                (((index.resolve aliases a).run cache).1 = [e.node]
                  ↔ ∀ l ∈ e.chain, trim l.localName = l.localName) := by
  intro index
  have hl := Document.linked_of_parse hdoc
  have hs := Document.sound_of_parse hdoc
  have hof : ∀ e ∈ index.entries, ElementIndex.IsOf doc e :=
    fun e he => ElementIndex.isOf_of_mem_entries hl hs.root he
  refine ⟨ElementIndex.nodup_entries_of_parse hdoc, fun id => ?_,
    fun e he => ⟨(hof e he).chain,
      fun f hf => ElementIndex.eq_of_positional_eq hdoc he hf,
      ElementIndex.nodeAtPosition?_positional hdoc he,
      fun a ha aliases cache =>
        ElementIndex.resolve_positional_eq_iff hdoc he ha aliases cache⟩⟩
  rw [List.mem_map]
  constructor
  · rintro ⟨e, he, rfl⟩
    exact ⟨(hof e he).element, (hof e he).attached⟩
  · rintro ⟨helement, hattached⟩
    exact ElementIndex.exists_entry_of_isAttached hl hs helement hattached

/-- A document, an entry of its index, and the address that its path is
read as. -/
theorem exists_positional {s path : String} {id : Nat} {nodes : List Nat}
    (h : (Document.parse s).bind (fun doc =>
        ((ElementIndex.ofDocument doc).entries.find? (·.node == id)).bind
          fun e => (Address.parse e.positional).toOption.map fun a =>
            (e.positional,
              (((ElementIndex.ofDocument doc).resolve [] a).run default).1))
      = some (path, nodes)) :
    ∃ doc, ∃ e ∈ (ElementIndex.ofDocument doc).entries, ∃ a,
      Document.parse s = some doc ∧ e.node = id ∧ e.positional = path
        ∧ Address.parse e.positional = .ok a
        ∧ (((ElementIndex.ofDocument doc).resolve [] a).run default).1
          = nodes := by
  obtain ⟨doc, hdoc, h⟩ := Option.bind_eq_some_iff.mp h
  obtain ⟨e, he, h⟩ := Option.bind_eq_some_iff.mp h
  obtain ⟨a, ha, h⟩ := Option.map_eq_some_iff.mp h
  obtain ⟨hpath, hnodes⟩ := Prod.mk.inj h
  exact ⟨doc, e, List.mem_of_find?_eq_some he, a, hdoc,
    by simpa using List.find?_some he, hpath,
    toOption_eq_some_iff.mp ha, hnodes⟩

/-- The element below the second of two that have one name. -/
theorem index_tells_twins_apart :
    ∃ doc, ∃ e ∈ (ElementIndex.ofDocument doc).entries, ∃ a,
      Document.parse "<r><a/><b/><a><c/></a></r>" = some doc
        ∧ e.node = 4 ∧ e.positional = "/r/a[2]/c"
        ∧ (ElementIndex.ofDocument doc).nodeAtPosition? "/r/a[2]/c" = some 4
        ∧ Address.parse "/r/a[2]/c" = .ok a
        ∧ ∀ aliases cache, (((ElementIndex.ofDocument doc).resolve aliases
          a).run cache).1 = [4] := by
  obtain ⟨doc, e, he, a, hdoc, hnode, hpath, ha, hnodes⟩ :=
    @exists_positional "<r><a/><b/><a><c/></a></r>" "/r/a[2]/c" 4 [4]
      (by decide +kernel)
  obtain ⟨-, -, hentries⟩ := index_tells_elements_apart hdoc
  obtain ⟨-, -, hat, hresolve⟩ := hentries e he
  rw [hpath, hnode] at hat
  have htrim := (hresolve a ha [] default).mp (by rw [hnodes, hnode])
  have hall := fun aliases cache =>
    (hresolve a ha aliases cache).mpr htrim
  rw [hpath] at ha
  rw [hnode] at hall
  exact ⟨doc, e, he, a, hdoc, hnode, hpath, hat, ha, hall⟩

/-- A name with white space at its end: its path is read without it, and
leads nowhere. -/
theorem index_loses_padded_name :
    ∃ doc, ∃ e ∈ (ElementIndex.ofDocument doc).entries, ∃ a,
      Document.parse "<A\u1680/>" = some doc
        ∧ e.node = 0 ∧ e.positional = "/A\u1680"
        ∧ Address.parse e.positional = .ok a
        ∧ (((ElementIndex.ofDocument doc).resolve [] a).run default).1
          = [] := by
  obtain ⟨doc, e, he, a, hdoc, hnode, hpath, ha, hnodes⟩ :=
    @exists_positional "<A\u1680/>" "/A\u1680" 0 [] (by decide +kernel)
  exact ⟨doc, e, he, a, hdoc, hnode, hpath, ha, hnodes⟩

end Overlay
