import Laminate.Proofs.Sources

/-! Entries of an index go before options.
What has an entry is read off it, whatever its options say and whether or not they can be read; what
has none is read off its options, as beside an empty index. -/
namespace Laminate

open Descriptor Annotation Schema

/-! ### Annotations that an entry settles -/

/-- Two descriptors of one key have the same entry, or they have none and the same options. -/
inductive Settled {κ α : Type} [BEq κ] (key : κ) (entries entries' : List (κ × α))
    (written written' : List WrittenOption) : Prop
  | byEntry {a : α} (entry : entries.lookup key = some a) (entry' : entries'.lookup key = some a)
  | byOptions (absent : entries.lookup key = none) (absent' : entries'.lookup key = none)
    (same : written = written')

/-- Beside one index, options may differ just where it has an entry. -/
lemma settled_self {κ α : Type} [BEq κ] {key : κ} {entries : List (κ × α)}
    {written written' : List WrittenOption} :
    Settled key entries entries written written' ↔
      (∃ a, entries.lookup key = some a) ∨ written = written' := by
  constructor
  · rintro (⟨entry, -⟩ | ⟨-, -, same⟩)
    · exact .inl ⟨_, entry⟩
    · exact .inr same
  · rintro (⟨a, entry⟩ | rfl)
    · exact .byEntry entry entry
    · cases hentry : entries.lookup key with
      | some a => exact .byEntry hentry hentry
      | none => exact .byOptions hentry hentry rfl

/-- Descriptors that two indexes settle in the same way. -/
def Likeness.settled (i i' : Index) : Likeness where
  field message f f' := Settled (message, f.number) i.fields i'.fields f.options f'.options
  message name written written' := Settled name i.messages i'.messages written written'
  method name written written' := Settled name i.methods i'.methods written written'

variable {i i' : Index}

lemma ofField_of_settled {message : String} {f f' : FieldDesc} (bare : f.bare = f'.bare)
    (h : Settled (message, f.number) i.fields i'.fields f.options f'.options) :
    i.ofField message f = i'.ofField message f' := by
  obtain ⟨hname, hnumber, -, -⟩ := parts_of_bare bare
  unfold Index.ofField
  rw [← hname, ← hnumber]
  cases h with
  | byEntry entry entry' => rw [entry, entry']
  | byOptions absent absent' same => rw [absent, absent', same]

lemma ofMessage_of_settled {name : String} {written written' : List WrittenOption}
    (h : Settled name i.messages i'.messages written written') :
    i.ofMessage name written = i'.ofMessage name written' := by
  unfold Index.ofMessage
  cases h with
  | byEntry entry entry' => rw [entry, entry']
  | byOptions absent absent' same => rw [absent, absent', same]

lemma ofMethod_of_settled {name : String} {written written' : List WrittenOption}
    (h : Settled name i.methods i'.methods written written') :
    i.ofMethod name written = i'.ofMethod name written' := by
  unfold Index.ofMethod
  cases h with
  | byEntry entry entry' => rw [entry, entry']
  | byOptions absent absent' same => rw [absent, absent', same]

lemma settled_implies_read : (Likeness.settled i i').Implies (.read i i') where
  field := ofField_of_settled
  message := ofMessage_of_settled
  method := ofMethod_of_settled

/-! ### What a descriptor without an entry is read off -/

lemma ofField_of_absent {message : String} {f : FieldDesc}
    (absent : i.fields.lookup (message, f.number) = none) :
    i.ofField message f = ({} : Index).ofField message f :=
  ofField_of_settled rfl (.byOptions absent rfl rfl)

lemma ofMessage_of_absent {name : String} (absent : i.messages.lookup name = none)
    (written : List WrittenOption) :
    i.ofMessage name written = ({} : Index).ofMessage name written :=
  ofMessage_of_settled (.byOptions absent rfl rfl)

lemma ofMethod_of_absent {name : String} (absent : i.methods.lookup name = none)
    (written : List WrittenOption) :
    i.ofMethod name written = ({} : Index).ofMethod name written :=
  ofMethod_of_settled (.byOptions absent rfl rfl)

/-! ### Runs -/

/-- A run comes to the same, success or fault, for requests that differ just in options of what has
an entry, and beside indexes that have the same entries for what is there. An entry is the
annotation of its descriptor, whatever the options are; without one the options are read, as beside
an empty index. -/
theorem entries_replace_options :
    (∀ (i i' : Index) (r r' : Request), RequestAlike (.settled i i') r r' →
        r.run i = r'.run i') ∧
      (∀ (i : Index) (message : String) (f : FieldDesc),
        (∀ o, i.fields.lookup (message, f.number) = some o →
          i.ofField message f = .ok (some o)) ∧
        (i.fields.lookup (message, f.number) = none →
          i.ofField message f = ({} : Index).ofField message f)) ∧
      (∀ (i : Index) (name : String) (written : List WrittenOption),
        (∀ o, i.messages.lookup name = some o → i.ofMessage name written = .ok (some o)) ∧
        (i.messages.lookup name = none →
          i.ofMessage name written = ({} : Index).ofMessage name written)) ∧
      ∀ (i : Index) (name : String) (written : List WrittenOption),
        (∀ o, i.methods.lookup name = some o → i.ofMethod name written = .ok (some o)) ∧
        (i.methods.lookup name = none →
          i.ofMethod name written = ({} : Index).ofMethod name written) := by
  refine ⟨fun i i' r r' h => run_of_alike (h.mono settled_implies_read), fun i message f => ?_,
    fun i name written => ?_, fun i name written => ?_⟩
  · refine ⟨fun o entry => ?_, ofField_of_absent⟩
    simp only [Index.ofField, entry]
  · refine ⟨fun o entry => ?_, fun absent => ofMessage_of_absent absent written⟩
    simp only [Index.ofMessage, entry]
  · refine ⟨fun o entry => ?_, fun absent => ofMethod_of_absent absent written⟩
    simp only [Index.ofMethod, entry]

/-- An option that names an extension and has no value. -/
def valueless (extension : String) : WrittenOption := { name := [⟨extension, true⟩] }

/-- The request with options on its field and its method that cannot be read. -/
def valuelessRequest : Request :=
  optionsRequest [valueless fieldExtension] [] [valueless methodExtension]

lemma valuelessRequest_alike :
    RequestAlike (.settled optionsIndex optionsIndex) valuelessRequest
      (optionsRequest [] [] []) := by
  have hqualify : qualify "acme" "UserWire" = "acme.UserWire" := by decide
  have hservice : qualify (qualify "acme" "Users") "Get" = "acme.Users.Get" := by decide
  refine ⟨rfl, rfl, .cons ⟨rfl, .cons ⟨rfl, ?_, ?_⟩ (.nil _) (.nil _), ?_⟩ .nil⟩
  · exact settled_self.mpr (.inr rfl)
  · rw [hqualify]
    exact .cons ⟨rfl, .byEntry rfl rfl⟩ .nil
  · refine .cons ⟨rfl, .cons ⟨rfl, ?_⟩ .nil⟩ .nil
    rw [hservice]
    exact .byEntry rfl rfl

/-- Beside an index with entries for a field and a method, options of theirs that cannot be read
make no difference; beside an empty one the run stops at them. -/
theorem valueless_options_replaced :
    valuelessRequest.run optionsIndex = (optionsRequest [] [] []).run optionsIndex ∧
      optionsIndex.ofMethod "acme.Users.Get" [valueless methodExtension] =
        .ok (some publicMethod) ∧
      ({ optionsIndex with methods := [] } : Index).ofMethod "acme.Users.Get"
          [valueless methodExtension] =
        .error (.options (.ofMethod "acme.Users.Get") .noValue) ∧
      valuelessRequest.run {} = .error (.options (.ofField "acme.UserWire" "id") .noValue) := by
  obtain ⟨hrun, -, -, hmethod⟩ := entries_replace_options
  exact ⟨hrun _ _ _ _ valuelessRequest_alike, (hmethod _ _ _).1 _ rfl,
    ((hmethod _ _ _).2 rfl).trans rfl, rfl⟩

end Laminate
