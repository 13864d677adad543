import Laminate.Proofs.Members
import Mathlib.Data.List.Perm.Basic

/-! Names that the files of one package declare. Each is something of the schema with an ending
that says what the declaration is, decoders apart; so only equal stems meet. -/
namespace Laminate

open Laminate.Text Laminate.Schema Laminate.Code Laminate.Descriptor Laminate.Annotation

/-! ### Endings -/

/-- Neither of two texts ends in the other, so that no text ends in both. -/
def Text.EndApart (s t : String) : Prop := ¬ s.toList <:+ t.toList ∧ ¬ t.toList <:+ s.toList

instance (s t : String) : Decidable (EndApart s t) := inferInstanceAs (Decidable (_ ∧ _))

lemma Text.append_ne_of_endApart {s t : String} (h : EndApart s t) (a b : String) :
    a ++ s ≠ b ++ t := by
  intro heq
  have hlists : a.toList ++ s.toList = b.toList ++ t.toList := by
    simpa using congrArg String.toList heq
  have hs : s.toList <:+ b.toList ++ t.toList := ⟨a.toList, hlists⟩
  rcases List.suffix_or_suffix_of_suffix hs (List.suffix_append _ _) with hst | hts
  · exact h.1 hst
  · exact h.2 hts

/-- Stems under several endings, each stem with its ending. -/
def Text.ended (groups : List (String × List String)) : List String :=
  groups.flatMap fun group => group.2.map (· ++ group.1)

/-- Under endings of which none ends in another, names repeat only where stems do. -/
lemma Text.nodup_ended {groups : List (String × List String)}
    (apart : (groups.map Prod.fst).Pairwise EndApart) :
    (ended groups).Nodup ↔ ∀ group ∈ groups, group.2.Nodup := by
  have hdisjoint : groups.Pairwise
      (Function.onFun List.Disjoint fun group => group.2.map (· ++ group.1)) := by
    refine (List.pairwise_map.mp apart).imp fun {group other} h => ?_
    intro name hname hother
    obtain ⟨stem, -, rfl⟩ := List.mem_map.mp hname
    obtain ⟨stem', -, heq⟩ := List.mem_map.mp hother
    exact append_ne_of_endApart h stem stem' heq.symm
  rw [ended, List.nodup_flatMap, and_iff_left hdisjoint]
  refine forall₂_congr fun group _ => List.nodup_map_iff fun stem stem' h => ?_
  exact (String.append_left_inj _).mp h

/-! ### Base names -/

namespace Schema

/-- The ending that a name of some kind has. -/
def MessageKind.ending (suffixes : Suffixes) : MessageKind → String
  | wire => suffixes.wire
  | request => suffixes.request
  | response => suffixes.response
  | unknown => ""

lemma MessageKind.baseName_append {suffixes : Suffixes} {name : String} {kind : MessageKind}
    (h : (kind.ending suffixes).toList <:+ name.toList) :
    kind.baseName suffixes name ++ kind.ending suffixes = name := by
  have hdrop : ∀ {tail : String}, tail.toList <:+ name.toList →
      (dropTail? tail name).getD name ++ tail = name := by
    intro tail htail
    obtain ⟨base, hbase⟩ := htail
    rw [dropTail?, List.isSuffixOf?_eq_some_iff_append_eq.mpr hbase, ← String.toList_inj]
    simpa using hbase
  cases kind with
  | wire => exact hdrop h
  | request => exact hdrop h
  | response => exact hdrop h
  | unknown => exact String.append_empty

/-- A name has the ending of its kind. -/
lemma MessageKind.ending_ofName (suffixes : Suffixes) (name : String) :
    ((ofName suffixes name).ending suffixes).toList <:+ name.toList := by
  have hends : ∀ {ending : String}, endsIn name ending = true → ending.toList <:+ name.toList := by
    intro ending h
    exact List.isSuffixOf_iff_suffix.mp (Bool.and_eq_true_iff.mp h).2
  unfold ofName
  split
  · next h => exact hends h
  · split
    · next h => exact hends h
    · split
      · next h => exact hends h
      · exact List.nil_suffix

end Schema

/-! ### What a file declares -/

namespace Descriptor

/-- Full names of the methods that a file declares. -/
def FileDesc.methodNames (file : FileDesc) : List String :=
  file.services.flatMap fun s => s.methods.map fun m =>
    qualify (qualify file.package s.name) m.name

/-- Where no name has an underscore, the messages of a package have wire names of their own. -/
lemma Declaration.fullName_eq_of_wireName {d d' : Declaration} (hpackage : d.package = d'.package)
    (hd : ∀ name ∈ d.path ++ [d.desc.name], '_' ∉ name.toList)
    (hd' : ∀ name ∈ d'.path ++ [d'.desc.name], '_' ∉ name.toList)
    (h : d.wireName = d'.wireName) : d.fullName = d'.fullName := by
  have hcut : ∀ {names : List String}, (∀ name ∈ names, '_' ∉ name.toList) →
      splitAt (· == '_') (eachAfter '_' names) = [] :: names.map String.toList := by
    intro names hnames
    have hplain : ∀ name ∈ names, ∀ c ∈ name.toList, (c == '_') = false := by
      intro name hname c hc
      rw [beq_eq_false_iff_ne]
      rintro rfl
      exact hnames name hname hc
    simpa [splitAt] using splitAt_eachAfter (by rfl) hplain []
  have hnames : d.path ++ [d.desc.name] = d'.path ++ [d'.desc.name] := by
    have hpieces := hcut hd
    rw [← toList_wireName, h, toList_wireName, hcut hd', List.cons.injEq] at hpieces
    exact (List.map_injective_iff.mpr fun _ _ => String.toList_inj.mp) hpieces.2.symm
  obtain ⟨hpath, hname⟩ := List.append_inj' hnames rfl
  rw [fullName, fullName, outer, outer, hpackage, hpath, List.singleton_inj.mp hname]

end Descriptor

namespace Form

/-! ### What a plan declares -/

/-- What a message's generated names begin with. -/
def PlannedMessage.base (suffixes : Suffixes) (m : PlannedMessage) : String :=
  m.message.kind.baseName suffixes m.message.name

namespace Plan

variable (plan : Plan)

/-- The names that are bound by the files of the package itself. -/
def identifiers : List String :=
  (plan.written.filter fun t => Template.packageName plan t == plan.module.goName).flatMap
    fun t => (Template.decls plan t).filterMap Decl.binds?

/-- What names are made of, under their endings. -/
def stems : List (String × List String) :=
  let suffixes := plan.settings.suffixes
  let bases := List.map (PlannedMessage.base suffixes)
  let enums := plan.enums.map (·.name)
  let methods := plan.methods.map (·.method.name)
  [("ToString", enums), ("FromString", enums), (suffixes.domain, bases plan.domainMessages),
    (suffixes.outbound, bases plan.outboundMessages),
    (suffixes.inbound, bases plan.inboundMessages), ("Pattern", methods), ("Auth", methods)]

def decoders : List String := plan.methods.map fun b => "Decode" ++ b.method.name

/-- What keeps the names of a package apart. In a layer, messages of one kind need names of their
own; outbound structs of wire messages and of responses end alike, so these need bases of their own.
The methods of all services share one package. -/
structure NamesApart : Prop where
  enums : (plan.enums.map (·.name)).Nodup
  messages : ∀ layer ∈ [plan.domainMessages, plan.outboundMessages, plan.inboundMessages],
    ∀ m ∈ layer, ∀ m' ∈ layer, m.message.fullName ≠ m'.message.fullName →
      m.message.kind = m'.message.kind → m.message.name ≠ m'.message.name
  outbound : ∀ m ∈ plan.outboundMessages, ∀ m' ∈ plan.outboundMessages,
    m.message.kind ≠ m'.message.kind →
      m.base plan.settings.suffixes ≠ m'.base plan.settings.suffixes
  methods : ∀ b ∈ plan.methods, ∀ b' ∈ plan.methods,
    b.service ≠ b'.service → b.method.name ≠ b'.method.name
  decoders : ∀ name ∈ plan.decoders, name ∉ ended plan.stems

variable {plan}

/-- One name is bound for each message of a layer. -/
lemma binds_flatMap {messages : List PlannedMessage} {made : PlannedMessage → List Decl}
    {name : PlannedMessage → String} (h : ∀ m, (made m).filterMap Decl.binds? = [name m]) :
    (messages.flatMap made).filterMap Decl.binds? = messages.map name := by
  rw [List.filterMap_flatMap, List.map_eq_flatMap]
  exact List.flatMap_congr fun m _ => h m

/-- A template that has nothing to say would bind nothing. -/
lemma binds_filter {templates : List Template} (ht : .fixtures ∉ templates) :
    (templates.filter (·.isWritten plan)).flatMap
        (fun t => (Template.decls plan t).filterMap Decl.binds?) =
      templates.flatMap fun t => (Template.decls plan t).filterMap Decl.binds? := by
  induction templates with
  | nil => rfl
  | cons t rest ih =>
    obtain ⟨hne, hrest⟩ := List.ne_and_not_mem_of_not_mem_cons ht
    rw [List.filter_cons]
    split
    · simp only [List.flatMap_cons, ih hrest]
    · next hwritten =>
      have hdecls : Template.decls plan t = [] := by
        cases t <;> simp_all [Template.isWritten, Template.isAvailable, Template.addon,
          Template.hasContent, Template.decls]
      simp only [List.flatMap_cons, ih hrest, hdecls, List.filterMap_nil, List.nil_append]

/-- What the files of the package bind, template by template; conversions are methods. -/
lemma identifiers_eq : plan.identifiers =
    (plan.enums.flatMap fun e => [e.name ++ "ToString", e.name ++ "FromString"]) ++
      (plan.domainMessages.map (·.message.names.domain) ++
        (plan.outboundMessages.map (·.message.names.outbound) ++
          (plan.inboundMessages.map (·.message.names.inbound) ++
            plan.methods.flatMap fun b => [b.method.name ++ "Pattern", b.method.name ++ "Auth",
              "Decode" ++ b.method.name]))) := by
  have hfixtures : plan.module.goName ++ "_test" ≠ plan.module.goName := by
    intro h
    simpa using congrArg (·.toList.length) h
  have hpackage : Template.all.filter
      (fun t => Template.packageName plan t == plan.module.goName) =
        [.enums, .domain, .domainConvert, .outbound, .inbound, .http, .companion] := by
    simp [Template.all, Template.packageName, hfixtures]
  have henums : (plan.enums.flatMap Template.enumDecls).filterMap Decl.binds? =
      plan.enums.flatMap fun e => [e.name ++ "ToString", e.name ++ "FromString"] :=
    List.filterMap_flatMap
  have hdomain : (plan.domainMessages.flatMap Template.domainDecls).filterMap Decl.binds? =
      plan.domainMessages.map (·.message.names.domain) := by
    refine binds_flatMap fun m => ?_
    -- blocks of custom code are text, whatever they say
    simp [Template.domainDecls, Template.domainStruct, List.filterMap_map, Function.comp_def,
      Decl.binds?]
  have hconvert : (plan.domainMessages.flatMap Template.domainConvertDecls).filterMap Decl.binds? =
      [] := by
    simp [List.filterMap_flatMap, Template.domainConvertDecls, Template.conversionMethod,
      Decl.binds?]
  have houtbound : (plan.outboundMessages.flatMap Template.outboundDecls).filterMap Decl.binds? =
      plan.outboundMessages.map (·.message.names.outbound) :=
    binds_flatMap fun _ => rfl
  have hinbound : (plan.inboundMessages.flatMap Template.inboundDecls).filterMap Decl.binds? =
      plan.inboundMessages.map (·.message.names.inbound) :=
    binds_flatMap fun _ => rfl
  have hroutes : (plan.methods.flatMap Template.routeDecls).filterMap Decl.binds? =
      plan.methods.flatMap fun b =>
        [b.method.name ++ "Pattern", b.method.name ++ "Auth", "Decode" ++ b.method.name] :=
    List.filterMap_flatMap
  unfold identifiers written
  rw [List.filter_comm, hpackage, binds_filter (by decide)]
  simp only [List.flatMap_cons, List.flatMap_nil, Template.decls, henums, hdomain, hconvert,
    houtbound, hinbound, hroutes, List.filterMap_nil, List.append_nil, List.nil_append]

/-- The messages of a plan have the names that their bases give. -/
def Named (plan : Plan) : Prop :=
  ∀ m ∈ plan.messages,
    m.message.names = .derive plan.settings.suffixes m.message.name m.message.kind

lemma map_names (named : plan.Named) (wanted : PlannedMessage → Bool) {name : LayerNames → String}
    {ending : String} (hname : ∀ wire kind, name (.derive plan.settings.suffixes wire kind) =
      kind.baseName plan.settings.suffixes wire ++ ending) :
    (plan.messages.filter wanted).map (name ·.message.names) =
      ((plan.messages.filter wanted).map (PlannedMessage.base plan.settings.suffixes)).map
        (· ++ ending) := by
  rw [List.map_map]
  refine List.map_congr_left fun m hm => ?_
  rw [named m (List.mem_of_mem_filter hm), hname]
  rfl

/-- The names of the package are the ended ones and those of decoders, in another order. -/
lemma identifiers_perm (named : plan.Named) :
    plan.identifiers.Perm (ended plan.stems ++ plan.decoders) := by
  have hpairs {α : Type} (l : List α) (f g : α → String) :
      (l.flatMap fun a => [f a, g a]).Perm (l.map f ++ l.map g) := by
    rw [List.map_eq_flatMap (f := g)]
    exact (List.map_append_flatMap_perm l f _).symm
  have hroutes {α : Type} (l : List α) (f g k : α → String) :
      (l.flatMap fun a => [f a, g a, k a]).Perm (l.map f ++ (l.map g ++ l.map k)) :=
    (List.map_append_flatMap_perm l f _).symm.trans (.append_left _ (hpairs l g k))
  have hdomain : plan.domainMessages.map (·.message.names.domain) = _ :=
    map_names named (·.message.hasDomain) fun _ _ => rfl
  have houtbound : plan.outboundMessages.map (·.message.names.outbound) = _ :=
    map_names named (·.message.hasOutbound) fun _ _ => rfl
  have hinbound : plan.inboundMessages.map (·.message.names.inbound) = _ :=
    map_names named (·.message.hasInbound) fun _ _ => rfl
  rw [identifiers_eq, hdomain, houtbound, hinbound]
  refine ((hpairs plan.enums _ _).append (.append_left _ (.append_left _ (.append_left _
    (hroutes plan.methods _ _ _))))).trans (.of_eq ?_)
  simp [ended, stems, decoders, domainMessages, outboundMessages, inboundMessages,
    Function.comp_def]

/-- Under the default endings, names repeat where stems do, or where a decoder is called like
something else. -/
lemma nodup_identifiers (named : plan.Named) (hsuffixes : plan.settings.suffixes = {}) :
    plan.identifiers.Nodup ↔ (∀ group ∈ plan.stems, group.2.Nodup) ∧
      ∀ name ∈ plan.decoders, name ∉ ended plan.stems := by
  have hendings : plan.stems.map Prod.fst =
      ["ToString", "FromString", "Domain", "Outbound", "Inbound", "Pattern", "Auth"] := by
    simp [stems, hsuffixes]
  have hapart : (plan.stems.map Prod.fst).Pairwise EndApart := by
    rw [hendings]
    decide
  have hdecoders : plan.decoders.Nodup ↔ (plan.methods.map (·.method.name)).Nodup := by
    have hmap : plan.decoders = (plan.methods.map (·.method.name)).map ("Decode" ++ ·) := by
      simp [decoders]
    rw [hmap]
    exact List.nodup_map_iff fun _ _ h => (String.append_right_inj _).mp h
  rw [(identifiers_perm named).nodup_iff, List.nodup_append', nodup_ended hapart, hdecoders]
  constructor
  · rintro ⟨hstems, -, hdisjoint⟩
    exact ⟨hstems, fun name hname hended => hdisjoint hended hname⟩
  · rintro ⟨hstems, hdisjoint⟩
    refine ⟨hstems, hstems ("Auth", _) ?_, fun name hended hname => hdisjoint name hname hended⟩
    simp [stems]

end Plan

section

variable {request : Request} {settings : Settings} {index : Index} {home : FileDesc} {plan : Plan}

lemma exists_named (h : request.plan settings index home = .ok plan) {m : PlannedMessage}
    (hm : m ∈ plan.messages) :
    ∃ d ∈ home.loaded, m.message.name = d.wireName ∧ m.message.fullName = d.fullName ∧
      m.message.kind = d.kind settings.suffixes ∧ m.message.names = d.names settings.suffixes := by
  obtain ⟨symbols, -, ⟨d, hd, hdeclared⟩, -⟩ := exists_declaration h hm
  obtain ⟨hname, hfull, hkind, hnames, -⟩ := message_of_declared hdeclared
  exact ⟨d, hd, hname, hfull, hkind, hnames⟩

lemma settings_of_plan (h : request.plan settings index home = .ok plan) :
    plan.settings = settings := by
  obtain ⟨schema, -, hof⟩ := plan_ok h
  exact (Plan.of_ok hof).1

lemma named_of_plan (h : request.plan settings index home = .ok plan) : plan.Named := by
  intro m hm
  obtain ⟨d, -, hname, -, hkind, hnames⟩ := exists_named h hm
  rw [hnames, settings_of_plan h, hname, hkind]
  rfl

/-- A message's name is its base with the ending of its kind. -/
lemma base_append (h : request.plan settings index home = .ok plan) {m : PlannedMessage}
    (hm : m ∈ plan.messages) :
    m.base settings.suffixes ++ m.message.kind.ending settings.suffixes = m.message.name := by
  obtain ⟨d, -, hname, -, hkind, -⟩ := exists_named h hm
  refine MessageKind.baseName_append ?_
  rw [hkind, hname, Declaration.wireName, String.toList_append]
  exact (MessageKind.ending_ofName ..).trans (List.suffix_append _ _)

/-- The messages of a plan have full names of their own where the declared ones do. -/
lemma nodup_fullNames (h : request.plan settings index home = .ok plan)
    (distinct : (home.declarations.map Declaration.fullName).Nodup) :
    (plan.messages.map (·.message.fullName)).Nodup := by
  obtain ⟨schema, hschema, hof⟩ := plan_ok h
  obtain ⟨-, -, symbols, -, hloaded⟩ := FileSchema.load_ok hschema
  have hnames : schema.messages.map (·.fullName) = home.loaded.map Declaration.fullName :=
    map_eq_of_forall₂ hloaded fun _ _ hdeclared => (message_of_declared hdeclared).2.1
  have hplanned : plan.messages.map (·.message.fullName) =
      (schema.messages.filter (·.kind != .unknown)).map (·.fullName) := by
    rw [← Plan.messages_of_ok hof, List.map_map]
    rfl
  rw [hplanned]
  refine List.Nodup.sublist (List.filter_sublist.map _) ?_
  rw [hnames]
  exact distinct.sublist (List.filter_sublist.map _)

lemma name_of_method {service : String} {desc : MethodDesc} {method : Method}
    (h : Method.ofDesc index service desc = .ok method) : method.name = desc.name := by
  unfold Method.ofDesc at h
  obtain ⟨options, -, h⟩ := bind_eq_ok.mp h
  dsimp only at h
  split at h
  all_goals
    obtain ⟨endpoint, -, h⟩ := bind_eq_ok.mp h
    split at h
    all_goals
      obtain ⟨auth, -, h⟩ := bind_eq_ok.mp h
      cases h
      rfl

/-- A service has the name and the methods that its descriptor says. -/
lemma names_of_service {package : String} {desc : ServiceDesc} {service : Service}
    (h : Service.ofDesc index package desc = .ok service) :
    service.name = desc.name ∧ service.methods.map (·.name) = desc.methods.map (·.name) := by
  obtain ⟨methods, hmethods, rfl⟩ := map_eq_ok.mp h
  exact ⟨rfl, map_eq_of_forall₂ (mapM_eq_ok.mp hmethods) fun _ _ => name_of_method⟩

/-- What is kept of a list, read back, is a part of the list. -/
lemma sublist_of_filterMap {α β : Type} {made : α → Option β} {back : β → α}
    (h : ∀ a b, made a = some b → back b = a) (xs : List α) :
    ((xs.filterMap made).map back).Sublist xs := by
  induction xs with
  | nil => exact .slnil
  | cons a rest ih =>
    rw [List.filterMap_cons]
    split
    · exact ih.cons a
    · next b hb =>
      rw [List.map_cons, h a b hb]
      exact ih.cons_cons a

/-- The methods of a plan are told apart by service and name where the declared ones are. -/
lemma nodup_methods (h : request.plan settings index home = .ok plan)
    (distinct : home.methodNames.Nodup) :
    (plan.methods.map fun b => (b.service, b.method.name)).Nodup := by
  obtain ⟨schema, hschema, hof⟩ := plan_ok h
  obtain ⟨bindings, hbindings, hmethods⟩ := Plan.exists_bindings hof
  let entries := schema.services.flatMap fun s => s.methods.map (s.name, ·)
  have hentries : entries.map (fun e => qualify (qualify home.package e.1) e.2.name) =
      home.methodNames := by
    have hservices : schema.services.map (fun s => s.methods.map fun m =>
          qualify (qualify home.package s.name) m.name) =
        home.services.map fun s => s.methods.map fun m =>
          qualify (qualify home.package s.name) m.name := by
      refine map_eq_of_forall₂ (FileSchema.services_of_load hschema) fun desc service hservice => ?_
      obtain ⟨hname, hnames⟩ := names_of_service hservice
      have hqualified := congrArg (List.map (qualify (qualify home.package desc.name))) hnames
      rw [List.map_map, List.map_map] at hqualified
      rw [hname]
      exact hqualified
    rw [FileDesc.methodNames, List.flatMap_def, ← hservices]
    simp [entries, List.flatMap_def, List.map_map, Function.comp_def]
  have hpart : (plan.methods.map fun b => (b.service, b.method)).Sublist entries := by
    rw [hmethods, Bindings.methods_of_ok hbindings]
    refine sublist_of_filterMap (fun entry b hb => ?_) _
    obtain ⟨endpoint, request, located, -, -, -, -, rfl⟩ := Bindings.boundMethod?_eq_some.mp hb
    rfl
  have hkeys : (entries.map fun e => (e.1, e.2.name)).Nodup := by
    refine List.Nodup.of_map (fun key => qualify (qualify home.package key.1) key.2) ?_
    rw [List.map_map]
    exact hentries ▸ distinct
  have hplanned := hkeys.sublist (hpart.map fun e => (e.1, e.2.name))
  rwa [List.map_map] at hplanned

/-- Members that a key tells apart have values without repetition if those differ as the keys do. -/
lemma nodup_map_iff_of_key {α β γ : Type} {xs : List α} {key : α → β} {value : α → γ}
    (hkey : (xs.map key).Nodup) :
    (xs.map value).Nodup ↔ ∀ x ∈ xs, ∀ y ∈ xs, key x ≠ key y → value x ≠ value y := by
  rw [List.nodup_map_iff_inj_on hkey.of_map]
  refine forall₂_congr fun x hx => forall₂_congr fun y hy => ?_
  have hinj : key x = key y ↔ x = y :=
    ⟨fun h => List.inj_on_of_nodup_map hkey hx hy h, fun h => h ▸ rfl⟩
  rw [← hinj]
  exact not_imp_not.symm

/-- Messages of a plan have bases of their own where, within a kind, they have names of their own,
and across kinds, bases. -/
lemma nodup_bases (h : request.plan settings index home = .ok plan) {messages : List PlannedMessage}
    (hmessages : messages.Sublist plan.messages)
    (distinct : (plan.messages.map (·.message.fullName)).Nodup) :
    (messages.map (PlannedMessage.base settings.suffixes)).Nodup ↔
      (∀ m ∈ messages, ∀ m' ∈ messages, m.message.fullName ≠ m'.message.fullName →
        m.message.kind = m'.message.kind → m.message.name ≠ m'.message.name) ∧
      ∀ m ∈ messages, ∀ m' ∈ messages, m.message.kind ≠ m'.message.kind →
        m.base settings.suffixes ≠ m'.base settings.suffixes := by
  have hkey : (messages.map (·.message.fullName)).Nodup := distinct.sublist (hmessages.map _)
  have hbase : ∀ m ∈ messages, ∀ m' ∈ messages, m.message.kind = m'.message.kind →
      (m.base settings.suffixes = m'.base settings.suffixes ↔
        m.message.name = m'.message.name) := by
    intro m hm m' hm' hkind
    rw [← base_append h (hmessages.subset hm), ← base_append h (hmessages.subset hm'), hkind,
      String.append_left_inj]
  rw [nodup_map_iff_of_key hkey]
  constructor
  · intro hapart
    refine ⟨fun m hm m' hm' hne hkind hname => ?_, fun m hm m' hm' hkind => ?_⟩
    · exact hapart m hm m' hm' hne ((hbase m hm m' hm' hkind).mpr hname)
    · refine hapart m hm m' hm' fun hfull => hkind ?_
      rw [List.inj_on_of_nodup_map hkey hm hm' hfull]
  · rintro ⟨hsame, hmixed⟩ m hm m' hm' hne heq
    by_cases hkind : m.message.kind = m'.message.kind
    · exact hsame m hm m' hm' hne hkind ((hbase m hm m' hm' hkind).mp heq)
    · exact hmixed m hm m' hm' hkind heq

/-- Methods that are told apart by their services as well have names of their own where services
differ in them. -/
lemma nodup_methodNames (hkeys : (plan.methods.map fun b => (b.service, b.method.name)).Nodup) :
    (plan.methods.map (·.method.name)).Nodup ↔ ∀ b ∈ plan.methods, ∀ b' ∈ plan.methods,
      b.service ≠ b'.service → b.method.name ≠ b'.method.name := by
  rw [nodup_map_iff_of_key hkeys]
  refine forall₂_congr fun b _ => forall₂_congr fun b' _ => ?_
  rw [ne_eq, Prod.mk.injEq]
  tauto

/-- Stems repeat where names of enums, messages or methods do. -/
lemma nodup_stems (h : request.plan settings index home = .ok plan)
    (hmessages : (home.declarations.map Declaration.fullName).Nodup)
    (hmethods : home.methodNames.Nodup) :
    ((∀ group ∈ plan.stems, group.2.Nodup) ∧ ∀ name ∈ plan.decoders, name ∉ ended plan.stems) ↔
      plan.NamesApart := by
  have hsettings := settings_of_plan h
  have hfull := nodup_fullNames h hmessages
  have hdomain : ∀ m ∈ plan.domainMessages, m.message.kind = .wire := by
    intro m hm
    simpa [Message.hasDomain] using (List.mem_filter.mp hm).2
  have hinbound : ∀ m ∈ plan.inboundMessages, m.message.kind = .request := by
    intro m hm
    simpa [Message.hasInbound] using (List.mem_filter.mp hm).2
  have hstems : (∀ group ∈ plan.stems, group.2.Nodup) ↔ (plan.enums.map (·.name)).Nodup ∧
      (plan.domainMessages.map (PlannedMessage.base settings.suffixes)).Nodup ∧
      (plan.outboundMessages.map (PlannedMessage.base settings.suffixes)).Nodup ∧
      (plan.inboundMessages.map (PlannedMessage.base settings.suffixes)).Nodup ∧
      (plan.methods.map (·.method.name)).Nodup := by
    simp [Plan.stems, hsettings]
  obtain ⟨domainPart, outboundPart, inboundPart⟩ :
      plan.domainMessages.Sublist plan.messages ∧ plan.outboundMessages.Sublist plan.messages ∧
        plan.inboundMessages.Sublist plan.messages :=
    ⟨List.filter_sublist, List.filter_sublist, List.filter_sublist⟩
  rw [hstems, nodup_bases h domainPart hfull, nodup_bases h outboundPart hfull,
    nodup_bases h inboundPart hfull, nodup_methodNames (nodup_methods h hmethods)]
  constructor
  · rintro ⟨⟨henums, ⟨hdomains, -⟩, ⟨houtbounds, hmixed⟩, ⟨hinbounds, -⟩, hservices⟩, hdecoders⟩
    refine ⟨henums, ?_, hsettings ▸ hmixed, hservices, hdecoders⟩
    intro layer hlayer
    simp only [List.mem_cons, List.not_mem_nil, or_false] at hlayer
    rcases hlayer with rfl | rfl | rfl
    · exact hdomains
    · exact houtbounds
    · exact hinbounds
  · intro apart
    refine ⟨⟨apart.enums, ⟨apart.messages _ (by simp), ?_⟩,
      ⟨apart.messages _ (by simp), hsettings ▸ apart.outbound⟩,
      ⟨apart.messages _ (by simp), ?_⟩, apart.methods⟩, apart.decoders⟩
    · intro m hm m' hm' hkind
      exact absurd ((hdomain m hm).trans (hdomain m' hm').symm) hkind
    · intro m hm m' hm' hkind
      exact absurd ((hinbound m hm).trans (hinbound m' hm').symm) hkind

/-- Where no declared name has an underscore, messages of a plan are told apart by their names. -/
lemma name_ne_of_plain (h : request.plan settings index home = .ok plan)
    (plain : ∀ d ∈ home.loaded, ∀ name ∈ d.path ++ [d.desc.name], '_' ∉ name.toList)
    {m m' : PlannedMessage} (hm : m ∈ plan.messages) (hm' : m' ∈ plan.messages)
    (hne : m.message.fullName ≠ m'.message.fullName) : m.message.name ≠ m'.message.name := by
  intro hname
  obtain ⟨d, hd, hwire, hfull, -⟩ := exists_named h hm
  obtain ⟨d', hd', hwire', hfull', -⟩ := exists_named h hm'
  have hpackage : d.package = d'.package :=
    (package_of_mem_declarations (List.mem_of_mem_filter hd)).trans
      (package_of_mem_declarations (List.mem_of_mem_filter hd')).symm
  rw [hfull, hfull'] at hne
  exact hne (Declaration.fullName_eq_of_wireName hpackage (plain d hd) (plain d' hd')
    (hwire.symm.trans (hname.trans hwire')))

/-- The names of a package repeat just where something of the schema meets another thing of its
sort; messages do not, unless some name has an underscore. -/
theorem identifiers_nodup_iff (h : request.plan settings index home = .ok plan)
    (hsuffixes : settings.suffixes = {})
    (hmessages : (home.declarations.map Declaration.fullName).Nodup)
    (hmethods : home.methodNames.Nodup) :
    (plan.identifiers.Nodup ↔ plan.NamesApart) ∧
      ((∀ d ∈ home.loaded, ∀ name ∈ d.path ++ [d.desc.name], '_' ∉ name.toList) →
        ∀ m ∈ plan.messages, ∀ m' ∈ plan.messages,
          m.message.fullName ≠ m'.message.fullName → m.message.name ≠ m'.message.name) := by
  have hdefault : plan.settings.suffixes = {} := by rw [settings_of_plan h, hsuffixes]
  constructor
  · rw [Plan.nodup_identifiers (named_of_plan h) hdefault]
    exact nodup_stems h hmessages hmethods
  · exact fun plain m hm m' hm' hne => name_ne_of_plain h plain hm hm' hne

end

/-! ### Users and their accounts -/

/-- A service whose methods read a request for a user. -/
def userService (name : String) (methods : List String) : ServiceDesc where
  name := name
  methods := methods.map fun m =>
    { name := m, input := ".acme.UserRequest", output := ".acme.UserWire" }

/-- A file with an enum. -/
def roleRequest (messages : List MessageTree) (services : List ServiceDesc) : Request where
  files := [{ packageFile "user" "acme" messages with
    enums := [{ name := "Role", values := [] }]
    services := services }]
  generate := []

/-- A message without fields. -/
def bareMessage (name : String) : MessageTree := .node { name := name } []

/-- Methods of these full names are bound to a path. -/
def boundIndex (methods : List String) : Index where
  methods := methods.map fun name =>
    (name, { endpoint := some { method := "get", path := "/users" } })

def accountRequest : Request :=
  roleRequest (["UserWire", "UserRequest", "AccountResponse"].map bareMessage)
    [userService "Users" ["Get"]]

theorem account_names_apart :
    ∃ plan, accountRequest.plan {} (boundIndex ["acme.Users.Get"]) accountRequest.files[0] =
        .ok plan ∧
      plan.identifiers = ["RoleToString", "RoleFromString", "UserDomain", "UserOutbound",
        "AccountOutbound", "UserInbound", "GetPattern", "GetAuth", "DecodeGet"] ∧
      plan.NamesApart ∧
      ∀ m ∈ plan.messages, ∀ m' ∈ plan.messages,
        m.message.fullName ≠ m'.message.fullName → m.message.name ≠ m'.message.name := by
  have h : (accountRequest.plan {} (boundIndex ["acme.Users.Get"])
      accountRequest.files[0]).toOption.any (fun plan =>
        decide (plan.identifiers = ["RoleToString", "RoleFromString", "UserDomain", "UserOutbound",
          "AccountOutbound", "UserInbound", "GetPattern", "GetAuth", "DecodeGet"])) = true := by
    decide +kernel
  obtain ⟨plan, hplan, hcheck⟩ := exists_of_check h
  have hnames := of_decide_eq_true hcheck
  obtain ⟨hiff, hplain⟩ := identifiers_nodup_iff hplan rfl (by decide +kernel) (by decide +kernel)
  refine ⟨plan, hplan, hnames, hiff.mp ?_, hplain (by decide +kernel)⟩
  rw [hnames]
  decide

/-- The names of a package repeat, though the full names of messages and methods do not. -/
structure NamesMeet (request : Request) (index : Index) (home : FileDesc) : Prop where
  messages : (home.declarations.map Declaration.fullName).Nodup
  methods : home.methodNames.Nodup
  repeats : ∃ plan, request.plan {} index home = .ok plan ∧ ¬ plan.identifiers.Nodup

lemma namesMeet_of_check {request : Request} {index : Index} {home : FileDesc}
    (hmessages : (home.declarations.map Declaration.fullName).Nodup)
    (hmethods : home.methodNames.Nodup)
    (h : (request.plan {} index home).toOption.any (!decide ·.identifiers.Nodup) = true) :
    NamesMeet request index home := by
  obtain ⟨plan, hplan, hcheck⟩ := exists_of_check h
  exact ⟨hmessages, hmethods, plan, hplan, by simpa using hcheck⟩

/-- A wire message and a response of one user. -/
def sharedBase : Request := roleRequest (["UserWire", "UserResponse"].map bareMessage) []

/-- A message within a message, and one that is called like it. -/
def sharedName : Request :=
  roleRequest [.node { name := "User" } [bareMessage "HomeWire"], bareMessage "User_HomeWire"] []

/-- Methods that two services call alike. -/
def sharedMethod : Request :=
  roleRequest (["UserWire", "UserRequest"].map bareMessage)
    [userService "Users" ["Get"], userService "Accounts" ["Get"]]

/-- A method that is called like the decoder of another. -/
def sharedDecoder : Request :=
  roleRequest (["UserWire", "UserRequest"].map bareMessage)
    [userService "Users" ["GetAuth", "DecodeGet"]]

theorem distinct_names_meet :
    NamesMeet sharedBase {} sharedBase.files[0] ∧
      NamesMeet sharedName {} sharedName.files[0] ∧
      NamesMeet sharedMethod (boundIndex ["acme.Users.Get", "acme.Accounts.Get"])
        sharedMethod.files[0] ∧
      NamesMeet sharedDecoder (boundIndex ["acme.Users.GetAuth", "acme.Users.DecodeGet"])
        sharedDecoder.files[0] := by
  refine ⟨?_, ?_, ?_, ?_⟩
  · exact namesMeet_of_check (by decide +kernel) (by decide +kernel) (by decide +kernel)
  · exact namesMeet_of_check (by decide +kernel) (by decide +kernel) (by decide +kernel)
  · exact namesMeet_of_check (by decide +kernel) (by decide +kernel) (by decide +kernel)
  · exact namesMeet_of_check (by decide +kernel) (by decide +kernel) (by decide +kernel)

end Form

end Laminate
