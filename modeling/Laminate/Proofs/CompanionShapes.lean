import Laminate.Companion.Struct
import Laminate.Proofs.CompanionPaths
import Laminate.Proofs.PointerPolicy

/-! Types of domain fields in both languages. The companion type is read from a text that names of
the schema have gone into; where none of them closes an angle bracket, its layout has the shape of
the type in the main language. -/
namespace Laminate.Companion

open Laminate.Text Token Grammar

/-! ### Texts of types of other types -/

namespace Token

variable {text after : List Char}

lemma closesAngles_append_of_notMem (h : '>' ∉ text) (after : List Char) :
    closesAngles (text ++ after) = closesAngles after := by
  induction text with
  | nil => rfl
  | cons c text ih =>
    rw [List.mem_cons, not_or] at h
    rw [List.cons_append, ← ih h.2, closesAngles]
    exact fun hc => h.1 hc.symm

lemma closesAngles_append (h : closesAngles text = true) (hafter : closesAngles after = true)
    (hhead : after.head?.all (fun c => c == '>' || c == ',') = true) :
    closesAngles (text ++ after) = true := by
  fun_induction closesAngles text with
  | case1 => exact hafter
  | case2 rest ih =>
    rw [Bool.and_eq_true] at h
    rw [List.cons_append, closesAngles, ih h.2, Bool.and_true]
    cases rest with
    | nil => exact hhead
    | cons c rest => exact h.1
  | case3 c rest hc ih =>
    rw [List.cons_append, closesAngles, ih h]
    exact hc

end Token

/-- A text that can stand in angle brackets: it opens with no sign, and its own closing brackets are
followed as those of types are. -/
structure IsInner (text : List Char) : Prop where
  opens : text.head?.any (fun c => !isSpacing c && !isSign c) = true
  closes : closesAngles text = true

lemma IsInner.append {text after : List Char} (h : IsInner text)
    (hafter : closesAngles after = true)
    (hhead : after.head?.all (fun c => c == '>' || c == ',') = true) :
    IsInner (text ++ after) where
  opens := by
    cases text with
    | nil => cases h.opens
    | cons c text => exact h.opens
  closes := closesAngles_append h.closes hafter hhead

/-- A text that opens as a type does, before others. -/
lemma IsInner.prepend {before text : List Char}
    (hopens : before.head?.any (fun c => !isSpacing c && !isSign c) = true) (hbefore : '>' ∉ before)
    (h : closesAngles text = true) : IsInner (before ++ text) where
  opens := by
    cases before with
    | nil => cases hopens
    | cons c before => exact hopens
  closes := (closesAngles_append_of_notMem hbefore text).trans h

section

variable {name : String} {text opened : List Char} {fuel : Nat} {tokens : List Token}

/-- The tokens of a type of another type. -/
lemma readAll_wrapper (hname : name ∈ headWords) (htext : IsInner text)
    (h : readAll fuel opened (name.toList ++ '<' :: text) = some tokens) :
    ∃ fuel' joint inner, tokens = .word name :: .sign '<' joint :: inner ∧ OpensNoSign inner ∧
      EndsTypes (.sign '<' joint :: inner) ∧ readAll fuel' opened text = some inner := by
  obtain ⟨fuel', more, rfl, hmore⟩ := readAll_headWord hname (.inl rfl) h
  have hends : EndsTypes more := endsTypes_of_readAll
    (show closesAngles ('<' :: text) = true from htext.closes) hmore
  obtain ⟨fuel'', inner, rfl, hinner⟩ := readAll_sign (by decide) hmore
  have hopens : OpensNoSign inner := by
    cases text with
    | nil => cases htext.opens
    | cons c text =>
      have hc : isSpacing c = false ∧ isSign c = false := by simpa using htext.opens
      exact readAll_letter hc.1 hc.2 hinner
  exact ⟨fuel'', _, inner, rfl, hopens, hends, hinner⟩

lemma readAll_table (htext : IsInner text)
    (h : readAll fuel opened ("std::collections::HashMap<".toList ++ text) = some tokens) :
    ∃ joint₁ joint₂ joint inner, tokens = tablePath joint₁ joint₂ (.sign '<' joint :: inner) ∧
      OpensNoSign inner ∧ EndsTypes (.sign '<' joint :: inner) := by
  have hstd : ("std::collections::HashMap<".toList ++ text) = "std".toList ++ ':' :: ':' ::
    ("collections".toList ++ ':' :: ':' :: ("HashMap".toList ++ '<' :: text)) := rfl
  rw [hstd] at h
  obtain ⟨_, _, rfl, hfirst⟩ := readAll_headWord (by decide) (.inr rfl) h
  obtain ⟨_, _, rfl, hsecond⟩ := readAll_sign (by decide) hfirst
  obtain ⟨_, _, rfl, hcollections⟩ := readAll_sign (by decide) hsecond
  obtain ⟨_, _, rfl, hthird⟩ := readAll_headWord (by decide) (.inr rfl) hcollections
  obtain ⟨_, _, rfl, hfourth⟩ := readAll_sign (by decide) hthird
  obtain ⟨_, _, rfl, hmap⟩ := readAll_sign (by decide) hfourth
  obtain ⟨_, joint, inner, rfl, hinner, hends, -⟩ := readAll_wrapper (by decide) htext hmap
  exact ⟨_, _, joint, inner, rfl, hinner, hends⟩

end

lemma tokens?_eq {text : String} (hmark : text.toList.head? ≠ some '\ufeff') :
    tokens? text = readAll (text.toList.length + 1) [] text.toList := by
  unfold tokens?
  split
  · next heq => simp [heq] at hmark
  · rfl

lemma typeLayout?_eq_some {text : String} {doc : Doc} (hmark : text.toList.head? ≠ some '\ufeff')
    (h : typeLayout? text = some doc) : ∃ fuel fuel' tokens reading,
      readAll fuel [] text.toList = some tokens ∧
        typeAt fuel' true tokens = some (reading, []) ∧ reading.doc = doc := by
  unfold typeLayout? at h
  split at h
  · cases h
  · next tokens htokens =>
    split at h
    · next reading hreading =>
      cases h
      exact ⟨_, _, tokens, reading, (tokens?_eq hmark).symm.trans htokens, hreading, rfl⟩
    · cases h

/-! ### Shapes -/

/-- How a type says that there may be no value, or many of them. -/
inductive Shape where
  | plain | optional | list | table
  deriving Repr, DecidableEq

/-- The shape that the text of a type in the main language has. Octets are no list. -/
def Shape.ofText (text : String) : Shape :=
  match text.toList with
  | '*' :: _ => optional
  | '[' :: ']' :: element => if element = ['b', 'y', 't', 'e'] then plain else list
  | 'm' :: 'a' :: 'p' :: '[' :: _ => table
  | _ => plain

/-- The shape that the layout of a type in the companion language has. -/
def Shape.ofLayout : Doc → Shape
  | .sequence [.text "Option", .bracketed "<" (_ :: _) ">" _] => optional
  | .sequence [.text "Vec", .bracketed "<" [.sequence [.text "u8"]] ">" _] => plain
  | .sequence [.text "Vec", .bracketed "<" (_ :: _) ">" _] => list
  | .sequence [.text "std", .text "::", .text "collections", .text "::", .text "HashMap",
      .bracketed "<" (_ :: _) ">" _] => table
  | _ => plain

section

variable {text : String} {doc : Doc}

lemma isInner_close {text : List Char} (h : IsInner text) : IsInner (text ++ ['>']) :=
  h.append rfl rfl

/-- The layout of a type of another type, with what is read between its brackets. -/
lemma wrapper_layout {name : String} (hname : name ∈ headWords) (htext : IsInner text.toList)
    (h : typeLayout? (name ++ "<" ++ text ++ ">") = some doc) :
    ∃ docs fuel fuel' depth inner, doc = .sequence [.text name, .bracketed "<" docs ">" true] ∧
      readAll fuel [] (text.toList ++ ['>']) = some inner ∧
      ReadsArguments (argument (typeAt fuel') depth) inner docs [] := by
  have hchars : (name ++ "<" ++ text ++ ">").toList =
      name.toList ++ '<' :: (text.toList ++ ['>']) := by
    have hopen : "<".toList = ['<'] := by decide
    have hclose : ">".toList = ['>'] := by decide
    simp [String.toList_append, hopen, hclose]
  have hmark : (name ++ "<" ++ text ++ ">").toList.head? ≠ some '\ufeff' := by
    rw [hchars]
    simp only [headWords, List.mem_cons, List.not_mem_nil, or_false] at hname
    rcases hname with rfl | rfl | rfl | rfl | rfl <;> exact ne_of_beq_false rfl
  obtain ⟨fuel, fuel', tokens, reading, htokens, htype, rfl⟩ := typeLayout?_eq_some hmark h
  rw [hchars] at htokens
  obtain ⟨fuel'', joint, inner, rfl, hinner, hends, hread⟩ :=
    readAll_wrapper hname (isInner_close htext) htokens
  obtain ⟨docs, rfl, _, _, harguments⟩ := typeAt_wrapper hname hinner hends htype
  exact ⟨docs, _, _, _, inner, rfl, hread, harguments⟩

lemma shape_option (htext : IsInner text.toList)
    (h : typeLayout? ("Option<" ++ text ++ ">") = some doc) : Shape.ofLayout doc = .optional := by
  obtain ⟨docs, _, _, _, _, rfl, -, harguments⟩ :=
    wrapper_layout (show "Option" ∈ headWords by decide) htext h
  obtain ⟨_, _, -, hdoc⟩ := harguments.2
  cases docs with
  | nil => cases hdoc
  | cons first others => rfl

lemma toList_option (text : String) :
    ("Option<" ++ text ++ ">").toList = "Option".toList ++ '<' :: (text.toList ++ ['>']) := by
  have hopen : "Option<".toList = "Option".toList ++ ['<'] := by decide
  have hclose : ">".toList = ['>'] := by decide
  simp [String.toList_append, hopen, hclose]

lemma isInner_option (htext : IsInner text.toList) :
    IsInner ("Option<" ++ text ++ ">").toList := by
  rw [toList_option]
  exact .prepend (by decide) (by decide) (isInner_close htext).closes

lemma ofLayout_list {docs : List Doc} {doc : Doc} (hmem : doc ∈ docs)
    (hdoc : doc ≠ .sequence [.text "u8"]) :
    Shape.ofLayout (.sequence [.text "Vec", .bracketed "<" docs ">" true]) = .list := by
  cases docs with
  | nil => cases hmem
  | cons first others =>
    unfold Shape.ofLayout
    split <;> simp_all

lemma shape_list_option (htext : IsInner text.toList)
    (h : typeLayout? ("Vec<" ++ ("Option<" ++ text ++ ">") ++ ">") = some doc) :
    Shape.ofLayout doc = .list := by
  obtain ⟨docs, fuel, fuel', depth, tokens, rfl, htokens, -, first, left, hfirst, hmem⟩ :=
    wrapper_layout (show "Vec" ∈ headWords by decide) (isInner_option htext) h
  have hchars : ("Option<" ++ text ++ ">").toList ++ ['>'] =
      "Option".toList ++ '<' :: (text.toList ++ ['>'] ++ ['>']) := by
    rw [toList_option]
    simp
  rw [hchars] at htokens
  obtain ⟨_, joint, inner, rfl, hinner, hends, -⟩ :=
    readAll_wrapper (by decide) (isInner_close (isInner_close htext)) htokens
  obtain ⟨inside, hdoc⟩ := argument_wrapper (by decide) hinner hends hfirst
  exact ofLayout_list hmem (by simp [hdoc])

lemma shape_table (htext : IsInner text.toList)
    (h : typeLayout? ("std::collections::HashMap<" ++ text ++ ">") = some doc) :
    Shape.ofLayout doc = .table := by
  have hchars : ("std::collections::HashMap<" ++ text ++ ">").toList =
      "std::collections::HashMap<".toList ++ (text.toList ++ ['>']) := by
    have hclose : ">".toList = ['>'] := by decide
    simp [String.toList_append, hclose]
  have hmark : ("std::collections::HashMap<" ++ text ++ ">").toList.head? ≠ some '\ufeff' := by
    rw [hchars]
    exact ne_of_beq_false rfl
  obtain ⟨fuel, fuel', tokens, reading, htokens, htype, rfl⟩ := typeLayout?_eq_some hmark h
  rw [hchars] at htokens
  obtain ⟨joint₁, joint₂, joint, inner, rfl, hinner, hends⟩ :=
    readAll_table (isInner_close htext) htokens
  obtain ⟨docs, hdocs, hdoc⟩ := typeAt_table hinner hends htype
  rw [hdoc]
  cases docs with
  | nil => exact absurd rfl hdocs
  | cons first others => rfl

end

/-! ### Types of domain fields -/

open Laminate.Code Laminate.Form Laminate.Schema TypeExpr

/-- What a pointer in the domain layer points to. -/
def IsTarget (type : TypeRef) : Prop := type.isLeaf = true ∨ type = .genericMap

/-- What one element of a domain field may be. -/
inductive IsElement : TypeRef → Prop
  | builtin (scalar : Builtin) : IsElement (.builtin scalar)
  | time : IsElement .time
  | genericMap : IsElement .genericMap
  | pointer {target : TypeRef} (h : IsTarget target) : IsElement (.pointer target)

lemma isElement_element (view : Viewpoint) (kind : FieldKind) :
    IsElement (view.element .domain kind) := by
  cases kind with
  | scalar scalar => exact .builtin scalar
  | enum typeName placement => exact .builtin .string
  | wellKnown type =>
    cases type with
    | timestamp => exact .time
    | struct => exact .genericMap
    | value => exact .builtin .any
    | wrapper scalar => exact .pointer (.inl rfl)
  | message target =>
    have hleaf : (view.typeAt target.placement (targetName target .domain)).isLeaf = true :=
      isLeaf_typeAt target.placement _
    rw [Viewpoint.element]
    cases htype : view.typeAt target.placement (targetName target .domain) with
    | builtin scalar => exact .pointer (.inl rfl)
    | named name => exact .pointer (.inl rfl)
    | qualified package name => exact .pointer (.inl rfl)
    | pointer inner => simp [htype, TypeRef.isLeaf] at hleaf
    | slice inner => simp [htype, TypeRef.isLeaf] at hleaf
    | map key value => simp [htype, TypeRef.isLeaf] at hleaf

lemma IsElement.toPointer {type : TypeRef} (h : IsElement type) : IsElement type.toPointer := by
  cases h with
  | builtin scalar => exact .pointer (.inl rfl)
  | time => exact .pointer (.inl rfl)
  | genericMap => exact .pointer (.inr rfl)
  | pointer h => exact .pointer h

/-- The type of a domain field is an element, or a list or a table of one. -/
lemma plainType_cases (view : Viewpoint) (field : Field) :
    ∃ element, IsElement element ∧ (view.plainType field .domain = element ∨
      view.plainType field .domain = .slice element ∨
        ∃ key, view.plainType field .domain = .map (.builtin key) element) := by
  have helement := isElement_element view field.kind
  unfold Viewpoint.plainType
  split
  · exact ⟨_, helement, .inl rfl⟩
  · cases field.cardinality with
    | singular => exact ⟨_, helement, .inl rfl⟩
    | optional => exact ⟨_, helement.toPointer, .inl rfl⟩
    | repeated => exact ⟨_, helement, .inr (.inl rfl)⟩
    | map key => exact ⟨_, helement, .inr (.inr ⟨key, rfl⟩)⟩

lemma isInner_scalar (scalar : Builtin) : IsInner (scalarText scalar).toList := by
  cases scalar <;> exact ⟨by decide, by decide⟩

lemma isInner_dateTime : IsInner "chrono::DateTime<chrono::Utc>".toList :=
  ⟨by decide, by decide⟩

lemma isInner_genericMap : IsInner (ofType .genericMap).text.toList :=
  ⟨by decide, by decide⟩

/-- A type by its name, in a box. -/
lemma isInner_boxed {text : String} (h : '>' ∉ text.toList) :
    IsInner ("Box<" ++ text ++ ">").toList := by
  have hclose : ">".toList = ['>'] := by decide
  have hchars : ("Box<" ++ text ++ ">").toList = "Box<".toList ++ (text.toList ++ ['>']) := by
    simp [String.toList_append, hclose]
  rw [hchars]
  exact .prepend (by decide) (by decide) (closesAngles_append_of_notMem h _)

lemma text_ofQualified {package : String} (name : String) (h : package ≠ "time") :
    (ofQualified package name).text =
      if package.isEmpty then name else package ++ "::" ++ name := by
  rw [ofQualified, if_neg fun htime => h htime.1]
  split <;> rfl

lemma isInner_time {name : String} (hname : '>' ∉ name.toList) :
    IsInner (ofQualified "time" name).text.toList := by
  rw [ofQualified]
  split
  · exact isInner_dateTime
  · have hchars : ("time" ++ "::" ++ name).toList = "time::".toList ++ (name.toList ++ []) := by
      have hopen : "time::".toList = "time".toList ++ "::".toList := by decide
      simp [String.toList_append, hopen]
    rw [if_neg (by decide)]
    show IsInner ("time" ++ "::" ++ name).toList
    rw [hchars]
    exact .prepend (by decide) (by decide) (closesAngles_append_of_notMem hname [])

/-- What stands between the brackets of an optional type. -/
lemma isInner_target {target : TypeRef} (h : IsTarget target) (hname : '>' ∉ target.text.toList) :
    IsInner (if wantsBox target then boxed (ofType target) else ofType target).text.toList := by
  rcases h with h | rfl
  · cases target with
    | builtin scalar => exact isInner_scalar scalar
    | named name => exact isInner_boxed hname
    | qualified package name =>
      have hparts : '>' ∉ package.toList ∧ '>' ∉ name.toList := by
        rw [TypeRef.text] at hname
        split at hname
        · next hempty => simp_all [String.isEmpty_iff]
        · simp_all [String.toList_append]
      by_cases htime : package = "time"
      · subst htime
        exact isInner_time hparts.2
      · rw [if_pos (by simpa [wantsBox] using htime)]
        refine isInner_boxed ?_
        rw [ofType, text_ofQualified name htime]
        split
        · exact hparts.2
        · have hcolons : "::".toList = [':', ':'] := by decide
          simpa [String.toList_append, hcolons] using hparts
    | pointer target => cases h
    | slice element => cases h
    | map key value => cases h
  · exact isInner_genericMap

lemma toList_pointer (target : TypeRef) :
    (TypeRef.pointer target).text.toList = '*' :: target.text.toList := by
  have hstar : "*".toList = ['*'] := by decide
  simp [TypeRef.text, String.toList_append, hstar]

lemma isInner_element {element : TypeRef} (h : IsElement element)
    (hname : '>' ∉ element.text.toList) : IsInner (ofType element).text.toList := by
  cases h with
  | builtin scalar => exact isInner_scalar scalar
  | time => exact isInner_dateTime
  | genericMap => exact isInner_genericMap
  | pointer h =>
    rw [toList_pointer, List.mem_cons, not_or] at hname
    exact isInner_option (isInner_target h hname.2)

/-! ### One shape -/

/-- Whether a type has the same shape in both languages, if it has a layout. -/
def showsShape (type : TypeRef) : Bool :=
  (typeLayout? (ofType type).text).all fun layout =>
    Shape.ofLayout layout == Shape.ofText type.text

lemma showsShape_element {element : TypeRef} (h : IsElement element)
    (hplain : ∀ target, element ≠ .pointer target) :
    showsShape element = true ∧ showsShape (.slice element) = true := by
  cases h with
  | builtin scalar => cases scalar <;> decide +kernel
  | time => decide +kernel
  | genericMap => decide +kernel
  | pointer _ => exact absurd rfl (hplain _)

lemma ofText_pointer (target : TypeRef) :
    Shape.ofText (TypeRef.pointer target).text = .optional := by
  simp [Shape.ofText, toList_pointer]

lemma ofText_slice_pointer (target : TypeRef) :
    Shape.ofText (TypeRef.slice (.pointer target)).text = .list := by
  have hstar : "*".toList = ['*'] := by decide
  have hbrackets : "[]".toList = ['[', ']'] := by decide
  simp [Shape.ofText, TypeRef.text, String.toList_append, hstar, hbrackets]

lemma ofText_map (key value : TypeRef) : Shape.ofText (TypeRef.map key value).text = .table := by
  have hmap : "map[".toList = ['m', 'a', 'p', '['] := by decide
  simp [Shape.ofText, TypeRef.text, String.toList_append, hmap]

lemma shape_of_showsShape {type : TypeRef} {layout : Doc} (hshows : showsShape type = true)
    (h : typeLayout? (ofType type).text = some layout) :
    Shape.ofLayout layout = Shape.ofText type.text := by
  simpa [showsShape, h] using hshows

lemma shape_entry {key value : String} {layout : Doc} (hkey : IsInner key.toList)
    (hvalue : IsInner value.toList)
    (h : typeLayout? ("std::collections::HashMap<" ++ key ++ ", " ++ value ++ ">") = some layout) :
    Shape.ofLayout layout = .table := by
  have hentry : IsInner (key ++ (", " ++ value)).toList := by
    have hcomma : ", ".toList = [',', ' '] := by decide
    rw [String.toList_append, String.toList_append, hcomma]
    exact hkey.append ((closesAngles_append_of_notMem (by decide) _).trans hvalue.closes) rfl
  refine shape_table hentry ?_
  simpa only [String.append_assoc] using h

/-- The layout of a domain field's type has the shape of the type in the main language, unless a
name closes an angle bracket. -/
theorem ofLayout_plainType {view : Viewpoint} {field : Field} {layout : Doc}
    (hname : '>' ∉ (view.plainType field .domain).text.toList)
    (h : typeLayout? (ofType (view.plainType field .domain)).text = some layout) :
    Shape.ofLayout layout = Shape.ofText (view.plainType field .domain).text := by
  obtain ⟨element, helement, htype | htype | ⟨key, htype⟩⟩ := plainType_cases view field
  · rw [htype] at h hname ⊢
    cases helement with
    | builtin scalar => exact shape_of_showsShape (showsShape_element (.builtin scalar) nofun).1 h
    | time => exact shape_of_showsShape (showsShape_element .time nofun).1 h
    | genericMap => exact shape_of_showsShape (showsShape_element .genericMap nofun).1 h
    | pointer htarget =>
      rw [toList_pointer, List.mem_cons, not_or] at hname
      rw [ofText_pointer]
      exact shape_option (isInner_target htarget hname.2) h
  · rw [htype] at h hname ⊢
    cases helement with
    | builtin scalar => exact shape_of_showsShape (showsShape_element (.builtin scalar) nofun).2 h
    | time => exact shape_of_showsShape (showsShape_element .time nofun).2 h
    | genericMap => exact shape_of_showsShape (showsShape_element .genericMap nofun).2 h
    | @pointer target htarget =>
      have hbrackets : "[]".toList = ['[', ']'] := by decide
      have htarget' : '>' ∉ target.text.toList := fun hmem => hname (by
        rw [TypeRef.text, String.toList_append, toList_pointer]
        exact List.mem_append_right _ (List.mem_cons_of_mem _ hmem))
      rw [ofText_slice_pointer]
      exact shape_list_option (isInner_target htarget htarget') h
  · rw [htype] at h hname ⊢
    have hvalue : '>' ∉ element.text.toList := fun hmem => hname (by
      rw [TypeRef.text, String.toList_append]
      exact List.mem_append_right _ hmem)
    rw [ofText_map]
    exact shape_entry (isInner_scalar key) (isInner_element helement hvalue) h

end Laminate.Companion
