import WidgetFlow.Output.Markup
import WidgetFlow.Widget.Kind
import WidgetFlow.Proofs.Dict
import WidgetFlow.Proofs.Output.Reader

/-!
# Markup reads back as the tree

What stands in an output tree may come from anywhere. Markup escapes it wherever it puts it, except
for the names of tags, which are those of kinds, and the names of attributes. This module shows that
nothing else is needed: as long as no name of an attribute holds a delimiter, the reader of markup
gets back exactly the elements, regions, placeholders and fallbacks of the tree, nested as they are
in the tree, with all their attributes and texts (`outline`).

A name that holds a delimiter ends the tag or begins a value, and what is behind it is read as
markup (`forged`).

## Main results

* `standsFor_escape`: escaped text stands for the text, and holds no delimiter.
* `scans_spelled`, `scans_closing`: a tag is read as it was written.
* `scans_markup`: the markup of a tree is read as its tags and characters.
* `nestFrom_tokens`: these nest as the tree does.
* `read_markup`: the markup of a tree is read as the tree.
-/

namespace WidgetFlow.Markup

open Output (attr attributeText escape styleText tagAttributes fallbackText markup markupAll)

/-! ### Escaped text -/

/-- A text without an ampersand stands for itself. -/
theorem standsFor_self {cs : List Char} (h : '&' ∉ cs) : StandsFor cs cs := by
  induction cs with
  | nil => rfl
  | cons c rest ih =>
      rw [List.mem_cons, not_or] at h
      have hfirst : StandsFor [c] [c] := by simp [StandsFor, feed, decode, Ne.symm h.1]
      exact hfirst.append (ih h.2)

/-- An escaped character stands for the character. -/
theorem standsFor_escapeChar (c : Char) : StandsFor (Output.escapeChar c) [c] := by
  unfold Output.escapeChar
  split
  · rfl
  · rfl
  · rfl
  · rfl
  · next hamp _ _ _ => exact standsFor_self fun h => hamp (List.mem_singleton.mp h).symm

/-- No delimiter stands in an escaped character. -/
theorem undelimited_escapeChar (c : Char) : Undelimited (Output.escapeChar c) := by
  unfold Output.escapeChar
  split
  · decide
  · decide
  · decide
  · decide
  · next _ hlt hgt hquot => exact undelimited_cons.mpr ⟨⟨hlt, hgt, hquot⟩, by decide⟩

/-- The characters of an escaped text. -/
theorem toList_escape (raw : String) :
    (escape raw).toList = raw.toList.flatMap Output.escapeChar := String.toList_ofList

/-- Escaped text stands for the text. -/
theorem standsFor_escape (raw : String) : StandsFor (escape raw).toList raw.toList := by
  rw [toList_escape]
  induction raw.toList with
  | nil => rfl
  | cons c rest ih => exact (standsFor_escapeChar c).append ih

/-- No delimiter stands in escaped text. -/
theorem undelimited_escape (raw : String) : Undelimited (escape raw).toList := by
  rw [toList_escape]
  induction raw.toList with
  | nil => decide
  | cons c rest ih => exact (undelimited_escapeChar c).append ih

/-! ### Tags -/

/-- A name in which no delimiter stands. -/
def Plain (name : String) : Prop := Undelimited name.toList

/-- The name of a tag: no delimiter and no space stands in it. -/
def TagName (name : String) : Prop := Plain name ∧ ' ' ∉ name.toList

/-- What stands in front of the value of an attribute. -/
def inFront (name : String) : List Char := ' ' :: (name.toList ++ ['='])

/-- An attribute as it is written. -/
theorem toList_attr (name text : String) :
    (attr name text).toList = inFront name ++ (['"'] ++ ((escape text).toList ++ ['"'])) := by
  simp [attr, inFront, String.toList_append]

section Attributes

variable {values : List (List Char × List Char)} {behind : List Char}

/-- An attribute is read as it was written. -/
theorem scans_attr {name : String} (h : Plain name) (text : String) :
    (Scan.tag values behind).Scans (attr name text).toList []
      (.tag (values ++ [(behind ++ inFront name, text.toList)]) []) := by
  have hname : Undelimited (inFront name) :=
    undelimited_cons.mpr ⟨by decide, Undelimited.append h (by decide)⟩
  have hopen : (Scan.tag values (behind ++ inFront name)).Scans ['"'] []
      (.value values (behind ++ inFront name) [] none) := rfl
  have hvalue : (Scan.value values (behind ++ inFront name) [] none).Scans (escape text).toList []
      (.value values (behind ++ inFront name) text.toList none) :=
    Scan.Scans.value (standsFor_escape text) (undelimited_escape text)
  have hclose : (Scan.value values (behind ++ inFront name) text.toList none).Scans ['"'] []
      (.tag (values ++ [(behind ++ inFront name, text.toList)]) []) := rfl
  rw [toList_attr]
  exact (Scan.Scans.tag hname).append (hopen.append (hvalue.append hclose))

/-- Attributes are read as they were written. -/
theorem scans_attrs {attributes : List (String × String)} (h : ∀ a ∈ attributes, Plain a.1) :
    (Scan.tag values []).Scans (attributes.flatMap fun a => (attr a.1 a.2).toList) []
      (.tag (values ++ attributes.map fun a => (inFront a.1, a.2.toList)) []) := by
  induction attributes generalizing values with
  | nil =>
      rw [List.map_nil, List.append_nil]
      exact .nil _
  | cons a rest ih =>
      rw [List.forall_mem_cons] at h
      have hfirst : (Scan.tag values []).Scans (attr a.1 a.2).toList []
          (.tag (values ++ [(inFront a.1, a.2.toList)]) []) := scans_attr h.1 a.2
      have hall := hfirst.append (ih h.2)
      rwa [List.append_assoc] at hall

end Attributes

/-- The name of an attribute is read off what stands in front of its value. -/
theorem attributeName?_inFront (name : String) : attributeName? (inFront name) = some name := by
  simp [attributeName?, inFront]

/-- Attributes are read off their values. -/
theorem attributes?_inFront (attributes : List (String × String)) :
    attributes? (attributes.map fun a => (inFront a.1, a.2.toList)) = some attributes := by
  induction attributes with
  | nil => rfl
  | cons a rest ih =>
      simp only [List.map_cons, attributes?, attributeName?_inFront, ih, String.ofList_toList]

/-- What stands in a tag behind its attributes. -/
def tagEnd (hidden closed : Bool) : List Char :=
  (if hidden then " hidden".toList else []) ++ if closed then ['/'] else []

/-- A tag as it is written. -/
def Tag.spelled (t : Tag) (closed : Bool) : List Char :=
  '<' :: (t.name.toList ++ (t.attributes.flatMap (fun a => (attr a.1 a.2).toList) ++
    (tagEnd t.hidden closed ++ ['>'])))

/-- The token of a tag that closes itself or does not. -/
def Tag.token (t : Tag) (closed : Bool) : Token := if closed then .empty t else .opening t

/-- The name of a tag ends with the first space. -/
theorem span_tagName {name : String} (h : TagName name) (key : String) :
    (name.toList ++ inFront key).takeWhile (· ≠ ' ') = name.toList ∧
      (name.toList ++ inFront key).dropWhile (· ≠ ' ') = inFront key := by
  have hname : ∀ c ∈ name.toList, decide (c ≠ ' ') = true :=
    fun c hc => decide_eq_true fun heq => h.2 (heq ▸ hc)
  constructor
  · rw [List.takeWhile_append_of_pos hname]
    simp [inFront]
  · rw [List.dropWhile_append_of_pos hname]
    simp [inFront]

/-- The values in a tag, each with what stands in front of it, the first one with the name. -/
def Tag.values (t : Tag) : List (List Char × List Char) :=
  match t.attributes with
  | [] => []
  | first :: rest =>
    (t.name.toList ++ inFront first.1, first.2.toList) ::
      rest.map fun a => (inFront a.1, a.2.toList)

/-- The attributes of a tag are read behind its name. -/
theorem scans_values {t : Tag} (hne : t.attributes ≠ []) (h : ∀ a ∈ t.attributes, Plain a.1) :
    (Scan.tag [] t.name.toList).Scans (t.attributes.flatMap fun a => (attr a.1 a.2).toList) []
      (.tag t.values []) := by
  obtain ⟨first, rest, heq⟩ := List.exists_cons_of_ne_nil hne
  rw [heq, List.forall_mem_cons] at h
  have hfirst : (Scan.tag [] t.name.toList).Scans (attr first.1 first.2).toList []
      (.tag [(t.name.toList ++ inFront first.1, first.2.toList)] []) := scans_attr h.1 first.2
  have hvalues : t.values = [(t.name.toList ++ inFront first.1, first.2.toList)] ++
      rest.map fun a => (inFront a.1, a.2.toList) := by
    rw [Tag.values, heq]
    rfl
  rw [heq, List.flatMap_cons, hvalues]
  exact hfirst.append (scans_attrs h.2)

/-- A tag is what its values and its end say. -/
theorem tag?_values {t : Tag} (hname : TagName t.name) (hne : t.attributes ≠ []) (closed : Bool) :
    tag? t.values (tagEnd t.hidden closed) = some (t.token closed) := by
  obtain ⟨name, attributes, hidden⟩ := t
  obtain ⟨first, rest, rfl⟩ := List.exists_cons_of_ne_nil hne
  obtain ⟨htake, hdrop⟩ := span_tagName hname first.1
  have hall : attributes? ((inFront first.1, first.2.toList) ::
      rest.map fun a => (inFront a.1, a.2.toList)) = some (first :: rest) :=
    attributes?_inFront (first :: rest)
  have hend : tagEnds.lookup (tagEnd hidden closed) = some (hidden, closed) := by
    cases hidden <;> cases closed <;> rfl
  simp only [Tag.values, tag?, htake, hdrop, hall, hend, String.ofList_toList]
  cases closed <;> rfl

/-- **A tag is read as it was written.** -/
theorem scans_spelled {t : Tag} (hname : TagName t.name) (hne : t.attributes ≠ [])
    (hattributes : ∀ a ∈ t.attributes, Plain a.1) (closed : Bool) :
    (Scan.content none).Scans (t.spelled closed) [t.token closed] (.content none) := by
  have hopen : (Scan.content none).Scans ['<'] [] (.tag [] []) := rfl
  have hstart : (Scan.tag [] []).Scans t.name.toList [] (.tag [] t.name.toList) :=
    Scan.Scans.tag hname.1
  have hplain : Undelimited (tagEnd t.hidden closed) := by
    cases t.hidden <;> cases closed <;> decide
  have hend : (Scan.tag t.values []).Scans (tagEnd t.hidden closed) []
      (.tag t.values (tagEnd t.hidden closed)) := Scan.Scans.tag hplain
  have hclose : (Scan.tag t.values (tagEnd t.hidden closed)).Scans ['>'] [t.token closed]
      (.content none) := .single (by simp [Scan.step, tag?_values hname hne])
  exact hopen.append (hstart.append ((scans_values hne hattributes).append (hend.append hclose)))

/-- A closing tag is read as it was written. -/
theorem scans_closing {name : String} (h : TagName name) :
    (Scan.content none).Scans ("</".toList ++ (name.toList ++ ['>'])) [.closing name]
      (.content none) := by
  have hopen : (Scan.content none).Scans "</".toList [] (.tag [] ['/']) := rfl
  have hname : (Scan.tag [] ['/']).Scans name.toList [] (.tag [] ('/' :: name.toList)) :=
    Scan.Scans.tag h.1
  have hclose : (Scan.tag [] ('/' :: name.toList)).Scans ['>'] [.closing name] (.content none) :=
    .single (by simp [Scan.step, tag?, String.ofList_toList])
  exact hopen.append (hname.append hclose)

/-! ### What a tree is read as -/

/-- The tag of an element: the id comes first, then the attributes, the classes and the styles. -/
def elementTag (id tag : String) (attributes styles : List (String × Value)) (classes : List String)
    (hidden : Bool) : Tag where
  name := tag
  attributes := ("id", id) :: (attributes.map (fun a => (a.1, attributeText a.2)) ++
    ((if classes.isEmpty then [] else [("class", " ".intercalate classes)]) ++
      if styles.isEmpty then [] else [("style", styleText styles)]))
  hidden := hidden

/-- The tag of a placeholder. -/
def loadingTag (id attemptedType : String) : Tag :=
  ⟨"loading", [("id", id), ("type", attemptedType)], false⟩

/-- The tag of a fallback. -/
def fallbackTag (id attemptedType : String) : Tag :=
  ⟨"fallback", [("id", id), ("type", attemptedType)], false⟩

/-- The tag of a region. -/
def regionTag (name : String) : Tag := ⟨"region", [("name", name)], false⟩

/-- What stands in a fallback, as it is read. -/
def fallbackRead (id attemptedType : String) (properties : List (String × Value))
    (reason : String) : List Char :=
  "Unable to render \"".toList ++ attemptedType.toList ++ "\" (id ".toList ++ id.toList ++
    "): ".toList ++ reason.toList ++ "; properties: ".toList ++ (Value.obj properties).toJson.toList

mutual
/-- The tags and characters of a tree in order. -/
def tokens : Output → List Token
  | .element id tag attributes styles classes hidden children =>
    if children.isEmpty then [.empty (elementTag id tag attributes styles classes hidden)]
    else .opening (elementTag id tag attributes styles classes hidden) ::
      (tokensAll children ++ [.closing tag])
  | .text content => content.toList.map .char
  | .loading id attemptedType => [.empty (loadingTag id attemptedType)]
  | .fallback id attemptedType properties reason =>
    .opening (fallbackTag id attemptedType) ::
      ((fallbackRead id attemptedType properties reason).map .char ++ [.closing "fallback"])
  | .region name children =>
    .opening (regionTag name) :: (tokensAll children ++ [.closing "region"])
  | .fragment children => tokensAll children
/-- The tags and characters of trees one behind the other. -/
def tokensAll : List Output → List Token
  | [] => []
  | tree :: rest => tokens tree ++ tokensAll rest
end

mutual
/-- What markup says about a tree: a node for every element, region, placeholder and fallback, with
its attributes, and the characters of the texts. Fragments leave no trace. -/
def outline : Output → List Piece
  | .element id tag attributes styles classes hidden children =>
    [.node (elementTag id tag attributes styles classes hidden) (outlineAll children)]
  | .text content => content.toList.map .char
  | .loading id attemptedType => [.node (loadingTag id attemptedType) []]
  | .fallback id attemptedType properties reason =>
    [.node (fallbackTag id attemptedType)
      ((fallbackRead id attemptedType properties reason).map .char)]
  | .region name children => [.node (regionTag name) (outlineAll children)]
  | .fragment children => outlineAll children
/-- What markup says about trees one behind the other. -/
def outlineAll : List Output → List Piece
  | [] => []
  | tree :: rest => outline tree ++ outlineAll rest
end

mutual
/-- The names of the tag and of the attributes have a property in every element of a tree. -/
def Elements (p : String → List String → Prop) : Output → Prop
  | .element _ tag attributes _ _ _ children =>
    p tag (attributes.map (·.1)) ∧ ElementsAll p children
  | .region _ children => ElementsAll p children
  | .fragment children => ElementsAll p children
  | _ => True
/-- The names of the tag and of the attributes have a property in every element of some trees. -/
def ElementsAll (p : String → List String → Prop) : List Output → Prop
  | [] => True
  | tree :: rest => Elements p tree ∧ ElementsAll p rest
end

/-- The names of an element can be read: its tag is that of a kind, and no delimiter stands in the
names of its attributes. -/
def Legible (tag : String) (names : List String) : Prop :=
  (Kind.ofCanonical? tag).isSome = true ∧ ∀ name ∈ names, Plain name

/-! ### Nesting -/

/-- Characters are trees of their own. -/
theorem nestFrom_chars (cs : List Char) (done : List Piece) (around : List (Tag × List Piece))
    (rest : List Token) : nestFrom done around (cs.map .char ++ rest) =
      nestFrom (done ++ cs.map .char) around rest := by
  induction cs generalizing done with
  | nil => rw [List.map_nil, List.map_nil, List.nil_append, List.append_nil]
  | cons c cs ih =>
      rw [List.map_cons, List.cons_append, nestFrom, ih, List.map_cons, List.append_assoc,
        List.singleton_append]

mutual
/-- **The tags of a tree nest as the tree does.** -/
theorem nestFrom_tokens (tree : Output) (done : List Piece) (around : List (Tag × List Piece))
    (rest : List Token) :
    nestFrom done around (tokens tree ++ rest) = nestFrom (done ++ outline tree) around rest := by
  cases tree with
  | element id tag attributes styles classes hidden children =>
      rw [tokens, outline]
      cases children with
      | nil => simp only [List.isEmpty_nil, if_true, List.singleton_append, nestFrom, outlineAll]
      | cons first others =>
          have hchildren := nestFrom_tokensAll (first :: others) []
            ((elementTag id tag attributes styles classes hidden, done) :: around)
            (.closing tag :: rest)
          simp only [List.isEmpty_cons, Bool.false_eq_true, if_false, List.cons_append,
            List.append_assoc, List.nil_append, nestFrom, hchildren]
          exact if_pos rfl
  | text content => exact nestFrom_chars content.toList done around rest
  | loading id attemptedType => simp only [tokens, outline, List.singleton_append, nestFrom]
  | fallback id attemptedType properties reason =>
      simp only [tokens, outline, List.cons_append, List.append_assoc, List.nil_append, nestFrom,
        nestFrom_chars]
      exact if_pos rfl
  | region name children =>
      have hchildren := nestFrom_tokensAll children [] ((regionTag name, done) :: around)
        (.closing "region" :: rest)
      simp only [tokens, outline, List.cons_append, List.append_assoc, List.nil_append, nestFrom,
        hchildren]
      exact if_pos rfl
  | fragment children =>
      rw [tokens, outline]
      exact nestFrom_tokensAll children done around rest
/-- The tags of trees nest as the trees do. -/
theorem nestFrom_tokensAll (trees : List Output) (done : List Piece)
    (around : List (Tag × List Piece)) (rest : List Token) :
    nestFrom done around (tokensAll trees ++ rest) =
      nestFrom (done ++ outlineAll trees) around rest := by
  cases trees with
  | nil => rw [tokensAll, outlineAll, List.nil_append, List.append_nil]
  | cons tree others =>
      rw [tokensAll, outlineAll, List.append_assoc, nestFrom_tokens tree,
        nestFrom_tokensAll others, List.append_assoc]
end

/-! ### What is written -/

instance : DecidablePred Plain := fun name => inferInstanceAs (Decidable (Undelimited name.toList))

instance : DecidablePred TagName := fun name =>
  inferInstanceAs (Decidable (Plain name ∧ ' ' ∉ name.toList))

/-- The tags of kinds are names of tags. -/
theorem tagName_of_canonical {tag : String} (h : (Kind.ofCanonical? tag).isSome = true) :
    TagName tag := by
  obtain ⟨kind, hkind⟩ := Option.isSome_iff_exists.mp h
  have hmem : (tag, kind) ∈ canonicalKinds := Dict.mem_of_lookup hkind
  have hall : ∀ entry ∈ canonicalKinds, TagName entry.1 := by decide
  exact hall (tag, kind) hmem

/-- The tag of an element as it is written. -/
theorem spelled_elementTag (id tag : String) (attributes styles : List (String × Value))
    (classes : List String) (hidden closed : Bool) :
    (elementTag id tag attributes styles classes hidden).spelled closed =
      ("<" ++ tag ++ tagAttributes id attributes styles classes hidden ++
        if closed then "/>" else ">").toList := by
  simp only [elementTag, Tag.spelled, tagEnd, tagAttributes, String.toList_append,
    String.toList_join, List.flatMap_map, List.flatMap_cons, List.flatMap_append, List.append_assoc]
  cases classes.isEmpty <;> cases styles.isEmpty <;> cases hidden <;> cases closed <;> simp

/-- The names of attributes and tags that do not come from data hold no delimiter. -/
theorem plain_fixed :
    (∀ name ∈ ["id", "class", "style", "type", "name"], Plain name) ∧
      ∀ name ∈ ["loading", "fallback", "region"], TagName name := by
  decide

/-- The names of the attributes of an element hold no delimiter if those that come from data do
not. -/
theorem plain_elementTag {id tag : String} {attributes styles : List (String × Value)}
    {classes : List String} {hidden : Bool} (h : ∀ name ∈ attributes.map (·.1), Plain name) :
    ∀ a ∈ (elementTag id tag attributes styles classes hidden).attributes, Plain a.1 := by
  have hclass : ∀ a ∈ if classes.isEmpty then [] else [("class", " ".intercalate classes)],
      Plain a.1 := by
    split
    · exact fun a ha => absurd ha List.not_mem_nil
    · exact List.forall_mem_singleton.mpr (plain_fixed.1 "class" (by decide))
  have hstyle : ∀ a ∈ if styles.isEmpty then [] else [("style", styleText styles)], Plain a.1 := by
    split
    · exact fun a ha => absurd ha List.not_mem_nil
    · exact List.forall_mem_singleton.mpr (plain_fixed.1 "style" (by decide))
  rw [List.forall_mem_map] at h
  rw [elementTag, List.forall_mem_cons, List.forall_mem_append, List.forall_mem_append,
    List.forall_mem_map]
  exact ⟨plain_fixed.1 "id" (by decide), h, hclass, hstyle⟩

/-- Outside of tags a text is read as characters. -/
def ReadAs (raw : String) (text : List Char) : Prop :=
  (Scan.content none).Scans raw.toList (text.map .char) (.content none)

/-- One text after another. -/
theorem ReadAs.append {raw raw' : String} {text text' : List Char} (h : ReadAs raw text)
    (h' : ReadAs raw' text') : ReadAs (raw ++ raw') (text ++ text') := by
  rw [ReadAs, String.toList_append, List.map_append]
  exact Scan.Scans.append h h'

/-- A text without delimiters and references is read as it is. -/
theorem readAs_self {raw : String}
    (h : '&' ∉ raw.toList ∧ '<' ∉ raw.toList ∧ '>' ∉ raw.toList) : ReadAs raw raw.toList :=
  .content (standsFor_self h.1) h.2.1 h.2.2

/-- Escaped text is read as the text. -/
theorem readAs_escape (raw : String) : ReadAs (escape raw) raw.toList :=
  .content (standsFor_escape raw) (undelimited_escape raw).1 (undelimited_escape raw).2.1

/-- The text in a fallback is read as what it says. -/
theorem readAs_fallbackText (id attemptedType : String) (properties : List (String × Value))
    (reason : String) :
    ReadAs (fallbackText id attemptedType properties reason)
      (fallbackRead id attemptedType properties reason) := by
  have hunable : ReadAs "Unable to render \"" "Unable to render \"".toList :=
    readAs_self (by decide)
  have hid : ReadAs "\" (id " "\" (id ".toList := readAs_self (by decide)
  have hcolon : ReadAs "): " "): ".toList := readAs_self (by decide)
  have hproperties : ReadAs "; properties: " "; properties: ".toList := readAs_self (by decide)
  have hwhat := (hunable.append (readAs_escape attemptedType)).append hid
  have hwhich := hwhat.append (readAs_escape id)
  have hwhy := (hwhich.append hcolon).append (readAs_escape reason)
  exact (hwhy.append hproperties).append (readAs_escape (Value.obj properties).toJson)

/-- A tag that does not come from data is read as it was written. -/
theorem scans_fixed {t : Tag} (hname : t.name ∈ ["loading", "fallback", "region"])
    (hne : t.attributes ≠ [])
    (hattributes : ∀ a ∈ t.attributes, a.1 ∈ ["id", "class", "style", "type", "name"])
    (closed : Bool) :
    (Scan.content none).Scans (t.spelled closed) [t.token closed] (.content none) :=
  scans_spelled (plain_fixed.2 t.name hname) hne (fun a ha => plain_fixed.1 a.1 (hattributes a ha))
    closed

/-- An element is read as its tags, around what its children are read as. -/
theorem scans_element {id tag : String} {attributes styles : List (String × Value)}
    {classes : List String} {hidden : Bool} {children : List Output}
    (h : Legible tag (attributes.map (·.1)))
    (hchildren : (Scan.content none).Scans (markupAll children).toList (tokensAll children)
      (.content none)) :
    (Scan.content none).Scans
      ("<" ++ tag ++ tagAttributes id attributes styles classes hidden ++
        (if children.isEmpty then "/>" else ">" ++ markupAll children ++ "</" ++ tag ++ ">")).toList
      (if children.isEmpty then [.empty (elementTag id tag attributes styles classes hidden)]
        else .opening (elementTag id tag attributes styles classes hidden) ::
          (tokensAll children ++ [.closing tag])) (.content none) := by
  obtain ⟨htag, hnames⟩ := h
  have hname := tagName_of_canonical htag
  have hspelled : ∀ closed, (Scan.content none).Scans
      ((elementTag id tag attributes styles classes hidden).spelled closed)
      [(elementTag id tag attributes styles classes hidden).token closed] (.content none) :=
    scans_spelled hname (List.cons_ne_nil _ _) (plain_elementTag hnames)
  simp only [spelled_elementTag] at hspelled
  cases children with
  | nil => exact hspelled true
  | cons first others =>
      have hall := (hspelled false).append (hchildren.append (scans_closing hname))
      simpa [String.toList_append, Tag.token] using hall

/-- A region is read as its tags, around what its children are read as. -/
theorem scans_region (name : String) {children : List Output}
    (hchildren : (Scan.content none).Scans (markupAll children).toList (tokensAll children)
      (.content none)) :
    (Scan.content none).Scans
      ("<region" ++ attr "name" name ++ ">" ++ markupAll children ++ "</region>").toList
      (.opening (regionTag name) :: (tokensAll children ++ [.closing "region"]))
      (.content none) := by
  have hopen : (Scan.content none).Scans ((regionTag name).spelled false)
      [.opening (regionTag name)] (.content none) :=
    scans_fixed (List.mem_of_elem_eq_true rfl) (List.cons_ne_nil _ _) (by simp [regionTag]) false
  have hclose := scans_closing (plain_fixed.2 "region" (by decide))
  have hall := hopen.append (hchildren.append hclose)
  simpa [Tag.spelled, regionTag, tagEnd, String.toList_append] using hall

/-- A placeholder is read as its tag. -/
theorem scans_loading (id attemptedType : String) :
    (Scan.content none).Scans
      ("<loading" ++ attr "id" id ++ attr "type" attemptedType ++ "/>").toList
      [.empty (loadingTag id attemptedType)] (.content none) := by
  have hempty : (Scan.content none).Scans ((loadingTag id attemptedType).spelled true)
      [.empty (loadingTag id attemptedType)] (.content none) :=
    scans_fixed (List.mem_of_elem_eq_true rfl) (List.cons_ne_nil _ _) (by simp [loadingTag]) true
  simpa [Tag.spelled, loadingTag, tagEnd, String.toList_append] using hempty

/-- A fallback is read as its tags, around its text. -/
theorem scans_fallback (id attemptedType : String) (properties : List (String × Value))
    (reason : String) :
    (Scan.content none).Scans
      ("<fallback" ++ attr "id" id ++ attr "type" attemptedType ++ ">" ++
        fallbackText id attemptedType properties reason ++ "</fallback>").toList
      (.opening (fallbackTag id attemptedType) ::
        ((fallbackRead id attemptedType properties reason).map .char ++ [.closing "fallback"]))
      (.content none) := by
  have hopen : (Scan.content none).Scans ((fallbackTag id attemptedType).spelled false)
      [.opening (fallbackTag id attemptedType)] (.content none) :=
    scans_fixed (List.mem_of_elem_eq_true rfl) (List.cons_ne_nil _ _) (by simp [fallbackTag]) false
  have htext := readAs_fallbackText id attemptedType properties reason
  have hclose := scans_closing (plain_fixed.2 "fallback" (by decide))
  have hall := hopen.append (Scan.Scans.append htext hclose)
  simpa [Tag.spelled, fallbackTag, tagEnd, String.toList_append] using hall

mutual
/-- **The markup of a tree is read as the tags and characters of the tree.** -/
theorem scans_markup (tree : Output) (h : Elements Legible tree) :
    (Scan.content none).Scans (markup tree).toList (tokens tree) (.content none) := by
  cases tree with
  | element id tag attributes styles classes hidden children =>
      rw [Elements] at h
      rw [markup, tokens]
      exact scans_element h.1 (scans_markupAll children h.2)
  | text content =>
      rw [markup, tokens]
      exact readAs_escape content
  | loading id attemptedType =>
      rw [markup, tokens]
      exact scans_loading id attemptedType
  | fallback id attemptedType properties reason =>
      rw [markup, tokens]
      exact scans_fallback id attemptedType properties reason
  | region name children =>
      rw [Elements] at h
      rw [markup, tokens]
      exact scans_region name (scans_markupAll children h)
  | fragment children =>
      rw [Elements] at h
      rw [markup, tokens]
      exact scans_markupAll children h
/-- The markup of trees one behind the other is read as their tags and characters. -/
theorem scans_markupAll (trees : List Output) (h : ElementsAll Legible trees) :
    (Scan.content none).Scans (markupAll trees).toList (tokensAll trees) (.content none) := by
  cases trees with
  | nil =>
      rw [markupAll, tokensAll]
      exact .nil _
  | cons tree others =>
      rw [ElementsAll] at h
      rw [markupAll, tokensAll, String.toList_append]
      exact (scans_markup tree h.1).append (scans_markupAll others h.2)
end

/-! ### Reading markup -/

/-- **Markup is not broken by data.** Take a tree in which the tags of all elements are those of
kinds and no `<`, `>` or `"` stands in the name of an attribute; ids, classes, values, styles and
their names, texts, names of regions and whatever a fallback is about may be anything. The reader of
markup reads the markup of the tree as the tree, every node with its attributes and its texts.
Every `<` and every `>` belongs to one of the tags of the tree, and every `"` in a tag to a value in
one of them. -/
theorem read_markup (tree : Output) (h : Elements Legible tree) :
    read (markup tree) = some (outline tree) ∧
      (markup tree).toList.count '<' = (tokens tree).countP Token.isTag ∧
      (markup tree).toList.count '>' = (tokens tree).countP Token.isTag ∧
      quotesInTags false (markup tree).toList = ((tokens tree).map Token.quotes).sum := by
  have hscans := scans_markup tree h
  have hnest := nestFrom_tokens tree [] [] []
  rw [List.append_nil] at hnest
  refine ⟨?_, hscans.counts⟩
  rw [read, scan, hscans, Option.bind_some, nest, hnest]
  rfl

/-- A tree whose data is full of delimiters, apart from the names of attributes. -/
def hostile : Output :=
  .region "<main>" [
    .element "\"/>" "text" [("label", .str "</text>"), ("a b=", .bool true)] [("\"><", .str "&lt;")]
      ["<", "\""] true [.text "1 < 2 & \"3\" > 2", .loading "<" ">"],
    .fragment [.fallback "&" "<script>" [("\"<", .null)] "</fallback>"]]

/-- It is read as it is: four nodes, of which the placeholder is one tag, with ten values. -/
theorem read_markup_hostile :
    Elements Legible hostile ∧ read (markup hostile) = some (outline hostile) ∧
      (markup hostile).toList.count '<' = 7 ∧ quotesInTags false (markup hostile).toList = 20 := by
  have hlegible : Elements Legible hostile := by
    simp only [hostile, Elements, ElementsAll, Legible, and_true]
    decide
  obtain ⟨hread, hcount, -, hquotes⟩ := read_markup hostile hlegible
  exact ⟨hlegible, hread, hcount.trans (by decide +kernel), hquotes.trans (by decide +kernel)⟩

/-- A text with one attribute, the name of which ends the tag and begins another one. -/
def forged : Output :=
  .element "x" "text" [("x=\"1\"/><image id", .str "v")] [] [] false []

/-- **The name of an attribute can break markup**: this one makes two nodes of one. -/
theorem read_markup_forged :
    ¬ ∀ tree, Elements (fun tag _ => (Kind.ofCanonical? tag).isSome = true) tree →
      read (markup tree) = some (outline tree) := by
  intro hall
  have htag : Elements (fun tag _ => (Kind.ofCanonical? tag).isSome = true) forged := by
    simp only [forged, Elements, ElementsAll, and_true]
    decide
  have htwo : (read (markup forged)).map List.length = some 2 := by decide +kernel
  rw [hall forged htag] at htwo
  exact absurd htwo (by decide +kernel)

end WidgetFlow.Markup
