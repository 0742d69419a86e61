/-
Which JSON values are configurations.

# What is asked for

`IsConfig` says setting by setting what a configuration has to look like.
A setting that is there has to be right (`IfPresent`); a section may also
be null (`IsSection`). Nothing is said of settings with other names.

# That nothing else is

A reader notes problems and goes on, so that a value may come out of it
although something was wrong. What counts is whether it is `Clean`: it is
if all its parts are, however many readers come after one another
(`clean_bind`), and for a section if it is for each entry
(`clean_collect`). Each reader has its lemma, which turns clean into the
predicate of the same name, and the last one puts them together.

A reader that is clean has dropped nothing either: as many templates come
out of the section as it has entries, and under the same names
(`collect_keys`). So a reference to a template is checked against the
names in the section, and a prefix against the names that are declared.
-/
import Mathlib
import Overlay.Config.Reader
import Overlay.Proofs.Table

namespace Overlay

open Text

-- ====================================================== clean readers

namespace Checked

variable {α β : Type} {c : Checked α}

/-- Whether no problem was met. -/
def Clean (c : Checked α) : Prop := c.problems = []

@[simp] theorem clean_mk (value : α) (problems : List Problem) :
    Clean ⟨value, problems⟩ ↔ problems = [] := Iff.rfl

@[simp] theorem clean_pure (value : α) : (pure value : Checked α).Clean :=
  rfl

@[simp] theorem value_pure (value : α) :
    (pure value : Checked α).value = value := rfl

@[simp] theorem not_clean_note (p : Problem) : ¬ (note p).Clean := nofun

@[simp] theorem not_clean_failed (p : Problem) :
    ¬ (failed p : Checked (Option α)).Clean := nofun

/-- Two readers one after the other are clean if both are, the second one on
what the first one hands on even where it is not. -/
@[simp] theorem clean_bind (c : Checked α) (f : α → Checked β) :
    (c >>= f).Clean ↔ c.Clean ∧ (f c.value).Clean :=
  List.append_eq_nil_iff

@[simp] theorem value_bind (c : Checked α) (f : α → Checked β) :
    (c >>= f).value = (f c.value).value := rfl

/-- A list is clean if its members are. -/
theorem clean_collect (read : α → Checked (Option β)) (xs : List α) :
    (collect read xs).Clean ↔ ∀ x ∈ xs, (read x).Clean := by
  induction xs with
  | nil => simp [collect]
  | cons x xs ih => simp [collect, ih]

/-- As long as no member comes to nothing, none is dropped. -/
theorem collect_keys {γ : Type} {read : α → Checked (Option β)}
    {name : α → γ} {key : β → γ} {xs : List α}
    (h : ∀ x ∈ xs, ∃ b, (read x).value = some b ∧ key b = name x) :
    (collect read xs).value.map key = xs.map name := by
  induction xs with
  | nil => rfl
  | cons x xs ih =>
      obtain ⟨b, hb, hkey⟩ := h x (List.mem_cons_self ..)
      have hrest := ih fun y hy => h y (List.mem_cons_of_mem x hy)
      show ((read x).value.toList ++ (collect read xs).value).map key = _
      rw [hb, List.map_append, hrest, List.map_cons, ← hkey]
      rfl

/-- So of a list with members something comes out. -/
theorem isEmpty_collect {read : α → Checked (Option β)} {xs : List α}
    (h : ∀ x ∈ xs, (read x).value.isSome) :
    (collect read xs).value.isEmpty = xs.isEmpty := by
  cases xs with
  | nil => rfl
  | cons x xs =>
      obtain ⟨b, hb⟩ :=
        Option.isSome_iff_exists.mp (h x (List.mem_cons_self ..))
      show ((read x).value.toList ++ (collect read xs).value).isEmpty = _
      rw [hb]
      rfl

/-- What comes out is accepted if nothing was wrong with it. -/
theorem toExcept_eq_ok_iff {a : α} :
    c.toExcept = .ok a ↔ c.Clean ∧ c.value = a := by
  rw [toExcept, Clean, ← List.isEmpty_iff]
  split <;> simp_all

end Checked

namespace Config

open Checked

-- =================================================== what is asked for

/-- A setting is right if it is there. -/
def IfPresent (fields : Json.Fields) (name : String) (right : Json → Prop) :
    Prop :=
  ∀ v, Table.find? name fields = some v → right v

/-- A section: null, or entries that are right. -/
def IsSection (right : String × Json → Prop) (v : Json) : Prop :=
  v = .null ∨ ∃ fields, v = .object fields ∧ ∀ entry ∈ fields, right entry

/-- A text. -/
def IsText (v : Json) : Prop := ∃ s, v = .text s

/-- A text that is not blank. -/
def IsSolid (v : Json) : Prop := ∃ s, v = .text s ∧ isBlankText s = false

/-- One of some words, whatever the case of its letters is and the white
space around it. -/
def IsWord (words : List String) (v : Json) : Prop :=
  ∃ s, v = .text s ∧ lowerAscii (trim s) ∈ words

/-- A natural number with so many bits at most. -/
def IsNatural (bits : Nat) (v : Json) : Prop :=
  ∃ n : Nat, v = .integer n ∧ n < 2 ^ bits

/-- An object. -/
def IsObject (v : Json) : Prop := ∃ fields, v = .object fields

/-- A list of objects. -/
def IsRows (v : Json) : Prop :=
  ∃ items, v = .list items ∧ ∀ item ∈ items, IsObject item

/-- A formula, or an object that has one. -/
def IsFormula (v : Json) : Prop :=
  IsText v ∨ ∃ fields s, v = .object fields
    ∧ Table.find? "formula" fields = some (.text s)

/-- The settings of a template that is an object. -/
structure IsTemplateObject (fields : Json.Fields) : Prop where
  cycle : IfPresent fields "cycle"
    (IsWord ["sequential", "random", "once", "infinite"])
  names : IfPresent fields "fields" fun v =>
    ∃ items, v = .list items ∧ ∀ item ∈ items, IsText item
  computed : IfPresent fields "computed" fun v =>
    ∃ entries, v = .object entries ∧ ∀ entry ∈ entries, IsFormula entry.2
  parent : ∀ v, eitherField fields "inheritance" "extends" = some v →
    IsSolid v
  rows : ∀ v, eitherField fields "data" "rows" = some v → IsRows v
  /-- There is a row, or a template to take rows from. -/
  source : (∃ item items,
      eitherField fields "data" "rows" = some (.list (item :: items)))
    ∨ (eitherField fields "inheritance" "extends").isSome

/-- A template: a row and maybe more of them, or an object. -/
def IsTemplate (v : Json) : Prop :=
  (∃ item items, v = .list (item :: items) ∧ IsRows v)
    ∨ ∃ fields, v = .object fields ∧ IsTemplateObject fields

/-- A value. One that refers to a template refers to one of those with
the names `declared`. -/
def IsValue (declared : List String) (v : Json) : Prop :=
  (∃ s, v = .text s ∧ ∀ r, ValueSpec.parse s = .templated r →
      r.template ∈ declared)
    ∨ (∃ n, v = .integer n) ∨ (∃ x, v = .real x) ∨ ∃ b, v = .bool b

/-- A key that is an address. -/
def IsAddress (key : String) : Prop := ∃ a, Address.parse key = .ok a

/-- A key that is a selector of attributes. -/
def IsSelector (key : String) : Prop := ∃ s, Selector.parse key = .ok s

/-- A rule of a choice: a condition and the option that it is for. -/
def IsRule (v : Json) : Prop :=
  ∃ test choose, v.field? "if" = some test ∧ IsSolid test
    ∧ v.field? "choose" = some choose ∧ IsSolid choose

/-- A choice: an option, or an object with rules or a default. -/
def IsChoice (v : Json) : Prop :=
  IsSolid v ∨ ∃ fields, v = .object fields
    ∧ IfPresent fields "conditions" (fun v =>
      ∃ items, v = .list items ∧ ∀ item ∈ items, IsRule item)
    ∧ IfPresent fields "default" IsSolid
    ∧ ((∃ item items,
        Table.find? "conditions" fields = some (.list (item :: items)))
      ∨ (Table.find? "default" fields).isSome)

/-- The names of the entries of a section. -/
def namesIn (fields : Json.Fields) (name : String) : List String :=
  (((Table.find? name fields).bind Json.object?).map Table.names).getD []

/-- The namespaces. A rule gives a prefix that is declared. -/
def IsNamespaces (fields : Json.Fields) : Prop :=
  IfPresent fields "default" (fun v => v = .null ∨ IsText v)
    ∧ IfPresent fields "prefixes" (IsSection fun entry => IsText entry.2)
    ∧ IfPresent fields "elements" (IsSection fun entry =>
      IsAddress entry.1
        ∧ ∃ p, entry.2 = .text p ∧ p ∈ namesIn fields "prefixes")

/-- A configuration, as an object. -/
structure IsRoot (root : Json.Fields) : Prop where
  schema : ∃ v, Table.find? "schema" root = some v ∧ IsSolid v
  mode : ∃ v, Table.find? "mode" root = some v
    ∧ IsWord ["complete", "minimal", "custom"] v
  seed : IfPresent root "seed" fun v => v = .null ∨ IsNatural 64 v
  templates : IfPresent root "templates"
    (IsSection fun entry => IsTemplate entry.2)
  values : IfPresent root "values" (IsSection fun entry =>
    IsAddress entry.1 ∧ IsValue (namesIn root "templates") entry.2)
  patterns : IfPresent root "patterns" (IsSection fun entry =>
    IsAddress entry.1 ∧ IsValue (namesIn root "templates") entry.2)
  choices : IfPresent root "choices" (IsSection fun entry =>
    IsAddress entry.1 ∧ IsChoice entry.2)
  repeats : IfPresent root "repeats"
    (IsSection fun entry => IsNatural 32 entry.2)
  attributes : IfPresent root "attributes" (IsSection fun entry =>
    IsSelector entry.1 ∧ IsValue (namesIn root "templates") entry.2)
  namespaces : IfPresent root "namespaces" fun v =>
    v = .null ∨ ∃ fields, v = .object fields ∧ IsNamespaces fields

/-- A configuration. -/
def IsConfig (v : Json) : Prop := ∃ root, v = .object root ∧ IsRoot root

-- ======================================================= plain settings

variable {root fields : Json.Fields} {name : String}

/-- The text that a setting asks for is there if the value is a text that is
not blank; a number or a list has none. -/
theorem solidText?_isSome (v : Json) : (solidText? v).isSome ↔ IsSolid v := by
  cases v <;> simp [solidText?, Json.text?, IsSolid]

/-- A number is taken if it is whole, not negative and below the bound of its
width. A real number is not, even where it is whole. -/
theorem natural?_isSome (bits : Nat) (v : Json) :
    (v.natural? (twoTo bits)).isSome ↔ IsNatural bits v := by
  have hpow : twoTo bits = 2 ^ bits := rfl
  cases v with
  | integer n =>
      simp only [Json.natural?, hpow, IsNatural, Json.integer.injEq]
      constructor
      · intro h
        split at h
        case isTrue hn =>
            simp only [Bool.and_eq_true, decide_eq_true_eq] at hn
            exact ⟨n.toNat, by omega, by omega⟩
        case isFalse => cases h
      · rintro ⟨k, rfl, hk⟩
        have hcast : (k : Int) < (2 ^ bits : Nat) := by omega
        rw [if_pos (by simpa using hcast)]
        rfl
  | _ => simp [Json.natural?, IsNatural]

/-- The schema must be there: a configuration without one is as wrong as one
with a blank text. -/
theorem clean_readSchema :
    (readSchema root).Clean
      ↔ ∃ v, Table.find? "schema" root = some v ∧ IsSolid v := by
  rw [readSchema]
  cases Table.find? "schema" root with
  | none => simp
  | some v =>
      have hsolid := solidText?_isSome v
      cases hs : solidText? v with
      | none => simp_all
      | some s => simp_all

/-- A mode is read by its name, and by no abbreviation of it. -/
theorem parse_mode (s : String) :
    (∃ mode, Mode.parse s = .ok mode)
      ↔ lowerAscii (trim s) ∈ ["complete", "minimal", "custom"] := by
  rw [Mode.parse]
  split <;> simp_all

/-- So must the mode, which is one of three words in any case. -/
theorem clean_readMode :
    (readMode root).Clean
      ↔ ∃ v, Table.find? "mode" root = some v
        ∧ IsWord ["complete", "minimal", "custom"] v := by
  rw [readMode]
  cases Table.find? "mode" root with
  | none => simp
  | some v =>
      cases v with
      | text s =>
          have hmode := parse_mode s
          cases hs : Mode.parse s <;> simp_all [IsWord]
      | _ => simp [IsWord]

/-- The seed may be absent or null, and else it fits into a word. -/
theorem clean_readSeed :
    (readSeed root).Clean
      ↔ IfPresent root "seed" fun v => v = .null ∨ IsNatural 64 v := by
  rw [readSeed, IfPresent]
  cases Table.find? "seed" root with
  | none => simp
  | some v =>
      have hnatural := natural?_isSome 64 v
      rw [show twoTo 64 = Decimal.wordBound from rfl] at hnatural
      cases v with
      | null => simp
      | _ =>
          simp only [Option.some.injEq, forall_eq', reduceCtorEq, false_or]
          split <;> simp_all

-- ============================================================= sections

/-- A section that is there is null or an object. -/
theorem clean_sectionFields :
    (sectionFields root name).Clean
      ↔ IfPresent root name (IsSection fun _ => True) := by
  rw [sectionFields, IfPresent]
  cases Table.find? name root with
  | none => simp
  | some v => cases v <;> simp [IsSection]

/-- Its entries are those of the object. Where it is something else there are
none to read, so nothing more is noted about it. -/
theorem sectionFields_value :
    (sectionFields root name).value
      = ((Table.find? name root).bind Json.object?).getD [] := by
  rw [sectionFields]
  cases Table.find? name root with
  | none => rfl
  | some v => cases v <;> rfl

/-- A section is clean if its entries are right. -/
theorem clean_section (root : Json.Fields) (name : String) {α : Type}
    {read : String × Json → Checked (Option α)}
    {right : String × Json → Prop}
    (h : ∀ entry, (read entry).Clean ↔ right entry) :
    (sectionFields root name).Clean
        ∧ (collect read (sectionFields root name).value).Clean
      ↔ IfPresent root name (IsSection right) := by
  rw [clean_sectionFields, clean_collect, sectionFields_value, IfPresent,
    IfPresent]
  simp only [h]
  cases Table.find? name root with
  | none => simp
  | some v => cases v <;> simp [IsSection, Json.object?]

/-- A section that is clean comes out with the names of its entries. -/
theorem section_names {α : Type} {read : String × Json → Checked (Option α)}
    {key : α → String}
    (htaken : ∀ entry, (read entry).Clean →
      ∃ a, (read entry).value = some a ∧ key a = entry.1)
    (h : (collect read (sectionFields root name).value).Clean) :
    (collect read (sectionFields root name).value).value.map key
      = namesIn root name := by
  rw [collect_keys fun entry hentry =>
      htaken entry ((clean_collect ..).mp h entry hentry),
    sectionFields_value, namesIn]
  cases (Table.find? name root).bind Json.object? <;> rfl

/-- The key of an entry is an address. -/
theorem clean_readKey (key : String) :
    (readKey name key).Clean ↔ IsAddress key := by
  rw [readKey, IsAddress]
  cases Address.parse key <;> simp

/-- The key of an attribute rule may also be in one of the short forms that are
no address. -/
theorem clean_readSelector (key : String) :
    (readSelector key).Clean ↔ IsSelector key := by
  rw [readSelector, IsSelector]
  cases Selector.parse key <;> simp

/-- A value is a scalar, and a text that reads as a reference names one of the
declared templates. -/
theorem clean_readValue (declared : List String) (key : String) (v : Json) :
    (readValue declared name key v).Clean ↔ IsValue declared v := by
  cases v with
  | text s =>
      simp only [readValue, scalarSpec?, IsValue]
      cases hs : ValueSpec.parse s with
      | templated r =>
          by_cases h : r.template ∈ declared <;> simp [hs, h]
      | _ => simp [hs]
  | _ => simp [readValue, scalarSpec?, IsValue]

/-- An entry of a section of values is right on both sides; a bad key does not
hide a bad value. -/
theorem clean_readValueEntry (declared : List String)
    (entry : String × Json) :
    (readValueEntry declared name entry).Clean
      ↔ IsAddress entry.1 ∧ IsValue declared entry.2 := by
  simp [readValueEntry, clean_readKey, clean_readValue]

/-- The same for attribute rules, with selectors for addresses. -/
theorem clean_readAttributeEntry (declared : List String)
    (entry : String × Json) :
    (readAttributeEntry declared entry).Clean
      ↔ IsSelector entry.1 ∧ IsValue declared entry.2 := by
  simp [readAttributeEntry, clean_readSelector, clean_readValue]

/-- A repetition is a count of 32 bits; its key may be anything. -/
theorem clean_readRepeat (entry : String × Json) :
    (readRepeat entry).Clean ↔ IsNatural 32 entry.2 := by
  have hnatural := natural?_isSome 32 entry.2
  rw [readRepeat]
  cases hs : entry.2.natural? (twoTo 32) <;> simp_all

-- ============================================================= choices

/-- A rule has a condition and an option, both solid texts, and nothing is
asked of what else is in it. -/
theorem clean_readRule (key : String) (rule : Json × Nat) :
    (readRule key rule).Clean ↔ IsRule rule.1 := by
  have htext : ∀ name : String,
      ((rule.1.field? name).bind solidText?).isSome
        ↔ ∃ v, rule.1.field? name = some v ∧ IsSolid v := by
    intro name
    cases rule.1.field? name with
    | none => simp
    | some v => simp [solidText?_isSome]
  have hif := htext "if"
  have hchoose := htext "choose"
  have hboth : IsRule rule.1
      ↔ (∃ v, rule.1.field? "if" = some v ∧ IsSolid v)
        ∧ ∃ v, rule.1.field? "choose" = some v ∧ IsSolid v := by
    simp only [IsRule]
    grind
  rw [hboth, ← hif, ← hchoose]
  cases hi : (rule.1.field? "if").bind solidText? <;>
    cases hc : (rule.1.field? "choose").bind solidText? <;>
    simp [readRule, hi, hc]

/-- The place of a member is only for the problem that is noted about it, so it
does not matter to what is clean. -/
theorem clean_zipIdx {α : Type} {read : Json × Nat → Checked (Option α)}
    {right : Json → Prop} (h : ∀ item, (read item).Clean ↔ right item.1)
    (items : List Json) :
    (collect read items.zipIdx).Clean ↔ ∀ item ∈ items, right item := by
  rw [clean_collect]
  constructor
  · intro hall item hitem
    obtain ⟨k, hk⟩ := List.getElem?_of_mem hitem
    exact (h _).mp (hall (item, k) (List.mk_mem_zipIdx_iff_getElem?.mpr hk))
  · intro hall item hitem
    exact (h item).mpr (hall _ (List.fst_mem_of_mem_zipIdx hitem))

/-- Conditions are a list of rules, and where there is none there is nothing
wrong yet. -/
theorem clean_readRules (key : String) :
    (readRules key fields).Clean
      ↔ IfPresent fields "conditions" fun v =>
        ∃ items, v = .list items ∧ ∀ item ∈ items, IsRule item := by
  rw [readRules, IfPresent]
  cases Table.find? "conditions" fields with
  | none => simp
  | some v =>
      cases v <;> simp [clean_zipIdx (clean_readRule key)]

/-- The default of a choice is a solid text where there is one. -/
theorem clean_readFallback (key : String) :
    (readFallback key fields).Clean
      ↔ IfPresent fields "default" IsSolid := by
  rw [readFallback, IfPresent]
  cases Table.find? "default" fields with
  | none => simp
  | some v =>
      have hsolid := solidText?_isSome v
      cases hs : solidText? v <;> simp_all

/-- A rule that is clean is taken. -/
theorem isSome_readRule {key : String} {rule : Json × Nat}
    (h : (readRule key rule).Clean) :
    (readRule key rule).value.isSome := by
  revert h
  simp only [readRule]
  split <;> simp

/-- Once the conditions are clean, some rule comes out if there is a list with
a member: a rule that was dropped would have been noted. -/
theorem isEmpty_readRules {key : String}
    (h : (readRules key fields).Clean) :
    (readRules key fields).value.isEmpty = false
      ↔ ∃ item items,
        Table.find? "conditions" fields = some (.list (item :: items)) := by
  revert h
  rw [readRules]
  cases Table.find? "conditions" fields with
  | none => simp
  | some v =>
      cases v with
      | list items =>
          intro h
          have hempty := isEmpty_collect fun x hx =>
            isSome_readRule ((clean_collect ..).mp h x hx)
          dsimp only
          rw [hempty]
          cases items <;> simp
      | _ => simp

/-- Once the default is clean, it comes out if it is there. -/
theorem isSome_readFallback {key : String}
    (h : (readFallback key fields).Clean) :
    (readFallback key fields).value.isSome
      ↔ (Table.find? "default" fields).isSome := by
  revert h
  rw [readFallback]
  cases Table.find? "default" fields with
  | none => simp
  | some v => cases hs : solidText? v <;> simp [hs]

/-- A choice is the name of an option, or an object with conditions or a
default. One with neither is refused although both of its parts are clean. -/
theorem clean_readChoiceSpec (key : String) (v : Json) :
    (readChoiceSpec key v).Clean ↔ IsChoice v := by
  cases v with
  | text s =>
      cases hblank : isBlankText s <;>
        simp [readChoiceSpec, IsChoice, IsSolid, hblank]
  | object fields =>
      have hparts : (readConditional key fields).Clean
          ↔ (readRules key fields).Clean
            ∧ (readFallback key fields).Clean := by
        simp [readConditional]
      have hvalue : (readConditional key fields).value
          = ((readRules key fields).value,
            (readFallback key fields).value) := rfl
      have hchoice : IsChoice (.object fields)
          ↔ (readConditional key fields).Clean
            ∧ ((∃ item items,
                Table.find? "conditions" fields = some (.list (item :: items)))
              ∨ (Table.find? "default" fields).isSome) := by
        rw [hparts, clean_readRules, clean_readFallback]
        simp [IsChoice, IsSolid, and_assoc]
      rw [hchoice]
      simp only [readChoiceSpec]
      by_cases hclean : (readConditional key fields).Clean
      · obtain ⟨hrules, hfallback⟩ := hparts.mp hclean
        have hproblems : (readConditional key fields).problems = [] := hclean
        rw [← isEmpty_readRules hrules, ← isSome_readFallback hfallback,
          hvalue, hproblems]
        cases (readRules key fields).value.isEmpty <;>
          cases (readFallback key fields).value <;> simp [hclean]
      · have hproblems : (readConditional key fields).problems.isEmpty
            = false := by
          simpa [Clean] using hclean
        refine iff_of_false ?_ fun h => hclean h.1
        simpa [hproblems, Clean] using hclean
  | _ => simp [readChoiceSpec, IsChoice, IsSolid]

/-- An entry of the choices is an address with a choice. -/
theorem clean_readChoiceEntry (entry : String × Json) :
    (readChoiceEntry entry).Clean ↔ IsAddress entry.1 ∧ IsChoice entry.2 := by
  simp [readChoiceEntry, clean_readKey, clean_readChoiceSpec]

-- =========================================================== templates

/-- A cycle is read by its name, like a mode. -/
theorem parse?_cycling (s : String) :
    (Cycling.parse? s).isSome
      ↔ lowerAscii (trim s)
        ∈ ["sequential", "random", "once", "infinite"] := by
  rw [Cycling.parse?]
  split <;> simp_all

/-- The cycle of a template is one of four words where it is given. -/
theorem clean_readCycling :
    (readCycling name fields).Clean ↔ IfPresent fields "cycle"
      (IsWord ["sequential", "random", "once", "infinite"]) := by
  rw [readCycling, IfPresent]
  cases Table.find? "cycle" fields with
  | none => simp
  | some v =>
      cases v with
      | text s =>
          have hcycle := parse?_cycling s
          cases hs : Cycling.parse? s <;>
            simp_all [IsWord, Json.text?, noteTemplate]
      | _ => simp [IsWord, Json.text?, noteTemplate]

/-- A list of texts is taken as a whole: one member that is no text, and it is
none. -/
theorem textList?_isSome (v : Json) :
    (textList? v).isSome
      ↔ ∃ items, v = .list items ∧ ∀ item ∈ items, IsText item := by
  have hitems : ∀ items : List Json,
      (items.mapM Json.text?).isSome ↔ ∀ item ∈ items, IsText item := by
    intro items
    induction items with
    | nil => simp
    | cons item items ih =>
        rw [List.mapM_cons]
        cases item with
        | text s =>
            cases hm : items.mapM Json.text? <;>
              simp_all [Json.text?, IsText]
        | _ => simp [Json.text?, IsText]
  cases v with
  | list items => simpa [textList?, Json.list?] using hitems items
  | _ => simp [textList?, Json.list?]

/-- The declared fields of a template are such a list. -/
theorem clean_readFields :
    (readFields name fields).Clean ↔ IfPresent fields "fields" fun v =>
      ∃ items, v = .list items ∧ ∀ item ∈ items, IsText item := by
  rw [readFields, IfPresent]
  cases Table.find? "fields" fields with
  | none => simp
  | some v =>
      have hlist := textList?_isSome v
      cases hs : textList? v <;> simp_all [noteTemplate]

/-- A computed field is a formula, or an object with a formula in it. -/
theorem clean_readComputed (entry : String × Json) :
    (readComputed name entry).Clean ↔ IsFormula entry.2 := by
  obtain ⟨field, v⟩ := entry
  cases v with
  | object fields =>
      simp only [readComputed, IsFormula, IsText]
      cases h : Table.find? "formula" fields with
      | none => simp [h]
      | some formula => cases formula <;> simp [h, Json.text?]
  | _ => simp [readComputed, IsFormula, IsText]

/-- The computed fields are an object of such entries. Null will not do here,
other than for a section. -/
theorem clean_readComputedFields :
    (readComputedFields name fields).Clean ↔ IfPresent fields "computed"
      fun v => ∃ entries, v = .object entries
        ∧ ∀ entry ∈ entries, IsFormula entry.2 := by
  rw [readComputedFields, IfPresent]
  cases Table.find? "computed" fields with
  | none => simp
  | some v =>
      cases v <;> simp [noteTemplate, clean_collect, clean_readComputed]

/-- The parent of a template is a solid text, under the first of its two names
that is there. -/
theorem clean_readParent :
    (readParent name fields).Clean
      ↔ ∀ v, eitherField fields "inheritance" "extends" = some v →
        IsSolid v := by
  rw [readParent]
  cases eitherField fields "inheritance" "extends" with
  | none => simp
  | some v =>
      cases v with
      | text s => cases h : isBlankText s <;> simp [IsSolid, h]
      | _ => simp [IsSolid]

/-- Once it is clean, there is a parent if one of the two names is there. -/
theorem isSome_readParent (h : (readParent name fields).Clean) :
    (readParent name fields).value.isSome
      ↔ (eitherField fields "inheritance" "extends").isSome := by
  revert h
  rw [readParent]
  cases eitherField fields "inheritance" "extends" with
  | none => simp
  | some v =>
      cases v with
      | text s => cases h : isBlankText s <;> simp [h]
      | _ => simp

/-- A row is an object; its fields may be anything. -/
theorem clean_readRow (row : Json × Nat) :
    (readRow name row).Clean ↔ IsObject row.1 := by
  rw [readRow, IsObject]
  split <;> simp_all

/-- Once it is clean, it comes out. -/
theorem isSome_readRow {row : Json × Nat} (h : (readRow name row).Clean) :
    (readRow name row).value.isSome := by
  revert h
  rw [readRow]
  split <;> simp

/-- The rows of a template are such a list where they are given. -/
theorem clean_readRows (name : String) (data : Option Json) :
    (readRows name data).Clean ↔ ∀ v, data = some v → IsRows v := by
  cases data with
  | none => simp [readRows]
  | some v =>
      cases v <;>
        simp [readRows, IsRows, noteTemplate, clean_zipIdx clean_readRow]

/-- Once they are clean, some row comes out if there is a list with a member,
as for rules. -/
theorem isEmpty_readRows {data : Option Json}
    (h : (readRows name data).Clean) :
    (readRows name data).value.1.isEmpty = false
      ↔ ∃ item items, data = some (.list (item :: items)) := by
  revert h
  cases data with
  | none => simp [readRows]
  | some v =>
      cases v with
      | list items =>
          intro h
          have hclean : (collect (readRow name) items.zipIdx).Clean := by
            simpa [readRows] using h
          have hempty := isEmpty_collect fun x hx =>
            isSome_readRow ((clean_collect ..).mp hclean x hx)
          show (collect (readRow name) items.zipIdx).value.isEmpty = false ↔ _
          rw [hempty]
          cases items <;> simp
      | _ => simp [readRows, noteTemplate]

/-- Rows, and the note that there are none and no parent either. -/
theorem clean_rowsOrParent {α : Type} (data : Option Json)
    (parent : Option String) (out : α) :
    (readRows name data).Clean
        ∧ (if (readRows name data).value.1.isEmpty && parent.isNone
          then do noteTemplate name .noRows; return out
          else pure out : Checked α).Clean
      ↔ (∀ v, data = some v → IsRows v)
        ∧ ((∃ item items, data = some (.list (item :: items)))
          ∨ parent.isSome) := by
  rw [← clean_readRows name]
  refine and_congr_right fun h => ?_
  rw [← isEmpty_readRows h]
  cases (readRows name data).value.1.isEmpty <;> cases parent <;>
    simp [noteTemplate]

/-- A template is a list of rows, or an object whose settings are right and
that has rows or takes them from a parent. -/
theorem clean_readTemplate (entry : String × Json) :
    (readTemplate entry).Clean ↔ IsTemplate entry.2 := by
  obtain ⟨name, v⟩ := entry
  cases v with
  | list items =>
      simp only [readTemplate, readTemplateSettings, clean_bind, clean_pure,
        value_pure, true_and]
      refine (clean_rowsOrParent ..).trans ?_
      simp only [IsTemplate, Option.some.injEq, forall_eq', Json.list.injEq,
        Option.isSome_none, Bool.false_eq_true, or_false, reduceCtorEq,
        false_and, exists_false]
      grind
  | object fields =>
      simp only [readTemplate, readTemplateSettings, clean_bind, clean_pure,
        value_bind, value_pure, and_true]
      refine (and_congr_right fun _ => clean_rowsOrParent ..).trans ?_
      constructor
      · rintro ⟨⟨hcycle, hnames, hcomputed, hparent⟩, hrows, hsource⟩
        rw [isSome_readParent hparent] at hsource
        exact .inr ⟨fields, rfl, clean_readCycling.mp hcycle,
          clean_readFields.mp hnames, clean_readComputedFields.mp hcomputed,
          clean_readParent.mp hparent, hrows, hsource⟩
      · rintro (⟨_, _, hlist, -⟩ | ⟨_, hobject, h⟩)
        · cases hlist
        · cases hobject
          have hparent : (readParent name fields).Clean :=
            clean_readParent.mpr h.parent
          exact ⟨⟨clean_readCycling.mpr h.cycle, clean_readFields.mpr h.names,
            clean_readComputedFields.mpr h.computed, hparent⟩, h.rows,
            h.source.imp_right (isSome_readParent hparent).mpr⟩
  | _ => simp [readTemplate, readTemplateSettings, IsTemplate]

/-- A template that is clean is declared under the name of its entry. -/
theorem readTemplate_name (entry : String × Json)
    (h : (readTemplate entry).Clean) :
    ∃ t, (readTemplate entry).value = some t ∧ t.name = entry.1 := by
  obtain ⟨name, v⟩ := entry
  cases v with
  | list items =>
      simp only [readTemplate, readTemplateSettings, value_bind, value_pure]
      split <;> exact ⟨_, rfl, rfl⟩
  | object fields =>
      simp only [readTemplate, readTemplateSettings, value_bind, value_pure]
      split <;> exact ⟨_, rfl, rfl⟩
  | _ => simp [readTemplate, readTemplateSettings] at h

-- ========================================================== namespaces

/-- A prefix is in the table of all prefixes if it is one of them. -/
theorem has_ordered {α : Type} (p : String) (entries : List (String × α)) :
    Table.has p (ordered entries) = true ↔ p ∈ entries.map (·.1) := by
  have hfold : ∀ (entries : List (String × α)) (t : Table α),
      Table.has p (entries.foldl
          (fun t e => Table.insertOrdered e.1 e.2 t) t) = true
        ↔ Table.has p t = true ∨ p ∈ entries.map (·.1) := by
    intro entries
    induction entries with
    | nil => simp
    | cons e entries ih =>
        intro t
        have hinsert : Table.has p (Table.insertOrdered e.1 e.2 t) = true
            ↔ Table.has p t = true ∨ p = e.1 := by
          by_cases hp : e.1 = p
          · subst hp
            simp [Table.has]
          · simp [Table.has, Table.find?_insertOrdered_of_ne hp, Ne.symm hp]
        rw [List.foldl_cons, ih, hinsert, List.map_cons, List.mem_cons,
          or_assoc]
  simpa [ordered, Table.has, Table.find?] using hfold entries []

/-- The default namespace is a text, or null for none. -/
theorem clean_readDefaultUri :
    (readDefaultUri fields).Clean
      ↔ IfPresent fields "default" fun v => v = .null ∨ IsText v := by
  rw [readDefaultUri, IfPresent]
  cases Table.find? "default" fields with
  | none => simp
  | some v => cases v <;> simp [IsText]

/-- A prefix is declared for a text, whatever it is. -/
theorem clean_readPrefix (entry : String × Json) :
    (readPrefix entry).Clean ↔ IsText entry.2 := by
  rw [readPrefix, IsText]
  split <;> simp_all

/-- A prefix that is clean is declared under its own name, so that the rules
below can be checked against the names in the section. -/
theorem readPrefix_name (entry : String × Json)
    (h : (readPrefix entry).Clean) :
    ∃ x, (readPrefix entry).value = some x ∧ x.1 = entry.1 := by
  revert h
  rw [readPrefix]
  split <;> simp

/-- A rule for prefixes has an address and a declared prefix. -/
theorem clean_readPrefixRule (prefixes : Table String)
    (entry : String × Json) :
    (readPrefixRule prefixes entry).Clean
      ↔ IsAddress entry.1
        ∧ ∃ p, entry.2 = .text p ∧ Table.has p prefixes = true := by
  have hprefix : (readRulePrefix prefixes entry.1 entry.2).Clean
      ↔ ∃ p, entry.2 = .text p ∧ Table.has p prefixes = true := by
    obtain ⟨key, v⟩ := entry
    cases v with
    | text p => cases h : Table.has p prefixes <;> simp [readRulePrefix, h]
    | _ => simp [readRulePrefix]
  simp [readPrefixRule, clean_readKey, hprefix]

/-- The namespaces, once their section is read. -/
theorem clean_namespaceFields (fields : Json.Fields) :
    (readDefaultUri fields).Clean
        ∧ (sectionFields fields "prefixes").Clean
        ∧ (collect readPrefix (sectionFields fields "prefixes").value).Clean
        ∧ (sectionFields fields "elements").Clean
        ∧ (collect (readPrefixRule (ordered (collect readPrefix
              (sectionFields fields "prefixes").value).value))
            (sectionFields fields "elements").value).Clean
      ↔ IsNamespaces fields := by
  rw [IsNamespaces, clean_section fields "elements" (clean_readPrefixRule _),
    clean_readDefaultUri, ← clean_section fields "prefixes" clean_readPrefix,
    and_assoc]
  refine and_congr_right fun _ => and_congr_right fun _ =>
    and_congr_right fun hlist => ?_
  simp only [has_ordered, section_names readPrefix_name hlist]

/-- The namespaces are null or an object of these three parts. That the rules
are read with the prefixes that came out makes no difference, since by then
none was dropped. -/
theorem clean_readNamespaces :
    (readNamespaces root).Clean ↔ IfPresent root "namespaces" fun v =>
      v = .null ∨ ∃ fields, v = .object fields ∧ IsNamespaces fields := by
  have hnone : IsNamespaces [] := ⟨nofun, nofun, nofun⟩
  simp only [readNamespaces, clean_bind, clean_pure, and_true,
    clean_namespaceFields]
  rw [clean_sectionFields, sectionFields_value, IfPresent, IfPresent]
  cases Table.find? "namespaces" root with
  | none => simpa using hnone
  | some v => cases v <;> simp [IsSection, Json.object?, hnone]

-- ================================================= whole configurations

/-- All of a configuration, setting by setting. The templates come first, as
the names of those that came out are what references are checked against. -/
theorem clean_readRoot : (readRoot root).Clean ↔ IsRoot root := by
  simp only [readRoot, readValueEntries, clean_bind, clean_pure, and_true]
  constructor
  · rintro ⟨hschema, hmode, hseed, htemplates, hlist, hvalues, hpatterns,
      hchoices, hchoice, hrepeats, hrepeat, hattributes, hattribute,
      hnamespaces⟩
    rw [section_names readTemplate_name hlist] at hvalues hpatterns hattribute
    exact {
      schema := clean_readSchema.mp hschema
      mode := clean_readMode.mp hmode
      seed := clean_readSeed.mp hseed
      templates :=
        (clean_section _ _ clean_readTemplate).mp ⟨htemplates, hlist⟩
      values := (clean_section _ _ (clean_readValueEntry _)).mp hvalues
      patterns := (clean_section _ _ (clean_readValueEntry _)).mp hpatterns
      choices :=
        (clean_section _ _ clean_readChoiceEntry).mp ⟨hchoices, hchoice⟩
      repeats := (clean_section _ _ clean_readRepeat).mp ⟨hrepeats, hrepeat⟩
      attributes := (clean_section _ _ (clean_readAttributeEntry _)).mp
        ⟨hattributes, hattribute⟩
      namespaces := clean_readNamespaces.mp hnamespaces }
  · intro h
    obtain ⟨htemplates, hlist⟩ :=
      (clean_section _ _ clean_readTemplate).mpr h.templates
    obtain ⟨hchoices, hchoice⟩ :=
      (clean_section _ _ clean_readChoiceEntry).mpr h.choices
    obtain ⟨hrepeats, hrepeat⟩ :=
      (clean_section _ _ clean_readRepeat).mpr h.repeats
    obtain ⟨hattributes, hattribute⟩ :=
      (clean_section _ _ (clean_readAttributeEntry _)).mpr h.attributes
    rw [section_names readTemplate_name hlist]
    exact ⟨clean_readSchema.mpr h.schema, clean_readMode.mpr h.mode,
      clean_readSeed.mpr h.seed, htemplates, hlist,
      (clean_section _ _ (clean_readValueEntry _)).mpr h.values,
      (clean_section _ _ (clean_readValueEntry _)).mpr h.patterns,
      hchoices, hchoice, hrepeats, hrepeat, hattributes, hattribute,
      clean_readNamespaces.mpr h.namespaces⟩

/-- A value is read without a problem exactly if it is a configuration. -/
theorem exists_ofJson_iff (v : Json) :
    (∃ c, ofJson v = .ok c) ↔ IsConfig v := by
  cases v with
  | object root =>
      simp [ofJson, toExcept_eq_ok_iff, clean_readRoot, IsConfig]
  | _ => simp [ofJson, IsConfig]

-- ================================================== nothing is dropped

/-- Two readers that take something when they are clean take something
together. -/
theorem value_both {α β γ : Type} {first : Checked (Option α)}
    {second : Checked (Option β)} (make : α → β → γ)
    (hfirst : first.Clean → first.value.isSome)
    (hsecond : second.Clean → second.value.isSome)
    (h : (do return both make (← first) (← second)).Clean) :
    ∃ a b, (do return both make (← first) (← second)).value
      = some (make a b) := by
  simp only [clean_bind, clean_pure, and_true] at h
  obtain ⟨a, ha⟩ := Option.isSome_iff_exists.mp (hfirst h.1)
  obtain ⟨b, hb⟩ := Option.isSome_iff_exists.mp (hsecond h.2)
  refine ⟨a, b, ?_⟩
  simp only [value_bind, value_pure, ha, hb]
  rfl

/-- A key that is clean comes out. -/
theorem isSome_readKey {key : String} (h : (readKey name key).Clean) :
    (readKey name key).value.isSome := by
  revert h
  rw [readKey]
  split <;> simp

/-- A value that is clean comes out. -/
theorem isSome_readValue {declared : List String} {key : String} {v : Json}
    (h : (readValue declared name key v).Clean) :
    (readValue declared name key v).value.isSome := by
  revert h
  rw [readValue]
  split
  · simp
  · split <;> simp
  · simp

/-- A selector that is clean comes out. -/
theorem isSome_readSelector {key : String} (h : (readSelector key).Clean) :
    (readSelector key).value.isSome := by
  revert h
  rw [readSelector]
  split <;> simp

/-- A choice that is clean comes out. -/
theorem isSome_readChoiceSpec {key : String} {v : Json}
    (h : (readChoiceSpec key v).Clean) :
    (readChoiceSpec key v).value.isSome := by
  cases v with
  | text s =>
      revert h
      rw [readChoiceSpec]
      split <;> simp
  | object fields =>
      revert h
      simp only [readChoiceSpec]
      split
      · simp_all
      · split <;> simp
  | _ => simp [readChoiceSpec] at h

/-- The prefix of a rule that is clean comes out. -/
theorem isSome_readRulePrefix {prefixes : Table String} {key : String}
    {v : Json} (h : (readRulePrefix prefixes key v).Clean) :
    (readRulePrefix prefixes key v).value.isSome := by
  cases v with
  | text p =>
      revert h
      rw [readRulePrefix]
      split <;> simp
  | _ => simp [readRulePrefix] at h

/-- An entry that is clean is kept, under its own key. -/
theorem readValueEntry_key (declared : List String) (entry : String × Json)
    (h : (readValueEntry declared name entry).Clean) :
    ∃ e, (readValueEntry declared name entry).value = some e
      ∧ e.key = entry.1 := by
  obtain ⟨a, b, hvalue⟩ :=
    value_both (ValueEntry.mk entry.1) isSome_readKey isSome_readValue h
  exact ⟨_, hvalue, rfl⟩

theorem readChoiceEntry_key (entry : String × Json)
    (h : (readChoiceEntry entry).Clean) :
    ∃ e, (readChoiceEntry entry).value = some e ∧ e.key = entry.1 := by
  obtain ⟨a, b, hvalue⟩ :=
    value_both (ChoiceEntry.mk entry.1) isSome_readKey isSome_readChoiceSpec h
  exact ⟨_, hvalue, rfl⟩

theorem readAttributeEntry_key (declared : List String)
    (entry : String × Json) (h : (readAttributeEntry declared entry).Clean) :
    ∃ e, (readAttributeEntry declared entry).value = some e
      ∧ e.key = entry.1 := by
  obtain ⟨a, b, hvalue⟩ := value_both (AttributeEntry.mk entry.1)
    isSome_readSelector isSome_readValue h
  exact ⟨_, hvalue, rfl⟩

theorem readPrefixRule_key (prefixes : Table String) (entry : String × Json)
    (h : (readPrefixRule prefixes entry).Clean) :
    ∃ e, (readPrefixRule prefixes entry).value = some e
      ∧ e.key = entry.1 := by
  obtain ⟨a, b, hvalue⟩ := value_both (PrefixRule.mk entry.1)
    isSome_readKey isSome_readRulePrefix h
  exact ⟨_, hvalue, rfl⟩

theorem readRepeat_key (entry : String × Json)
    (h : (readRepeat entry).Clean) :
    ∃ e, (readRepeat entry).value = some e ∧ e.1 = entry.1 := by
  revert h
  rw [readRepeat]
  split <;> simp

/-- Whether a configuration has an entry for each entry of an object. -/
structure Keeps (root : Json.Fields) (c : Config) : Prop where
  templates : c.templates.map (·.name) = namesIn root "templates"
  values : c.values.map (·.key) = namesIn root "values"
  patterns : c.patterns.map (·.key) = namesIn root "patterns"
  choices : c.choices.map (·.key) = namesIn root "choices"
  repeats : ∀ name, Table.has name c.repeats = true
    ↔ name ∈ namesIn root "repeats"
  attributes : c.attributes.map (·.key) = namesIn root "attributes"
  rules : c.namespaces.elements.map (·.key) = namesIn
    (((Table.find? "namespaces" root).bind Json.object?).getD []) "elements"

/-- A configuration that is accepted has dropped nothing. -/
theorem keeps_of_ofJson {c : Config} (h : ofJson (.object root) = .ok c) :
    Keeps root c := by
  obtain ⟨hclean, rfl⟩ := toExcept_eq_ok_iff.mp h
  simp only [readRoot, readValueEntries, readNamespaces, clean_bind,
    clean_pure, and_true] at hclean
  obtain ⟨-, -, -, -, htemplates, ⟨-, hvalues⟩, ⟨-, hpatterns⟩, -, hchoices,
    -, hrepeats, -, hattributes, -, -, -, -, -, hrules⟩ := hclean
  exact {
    templates := section_names readTemplate_name htemplates
    values := section_names (readValueEntry_key _) hvalues
    patterns := section_names (readValueEntry_key _) hpatterns
    choices := section_names readChoiceEntry_key hchoices
    repeats := fun name => by
      rw [← section_names readRepeat_key hrepeats, ← has_ordered]
      rfl
    attributes := section_names (readAttributeEntry_key _) hattributes
    rules := by
      rw [← sectionFields_value]
      exact section_names (readPrefixRule_key _) hrules }

/-- A JSON value is accepted if and only if it is a configuration; and what
is accepted has an entry for each entry of the value, under the same
name. -/
theorem ofJson_isOk_iff (v : Json) :
    ((∃ c, ofJson v = .ok c) ↔ IsConfig v)
      ∧ ∀ c, ofJson v = .ok c → ∃ root, v = .object root ∧ Keeps root c := by
  refine ⟨exists_ofJson_iff v, fun c h => ?_⟩
  obtain ⟨root, rfl, -⟩ := (exists_ofJson_iff v).mp ⟨c, h⟩
  exact ⟨root, rfl, keeps_of_ofJson h⟩

end Config

end Overlay
