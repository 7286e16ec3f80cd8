import MonitoringConfig.Proofs.Operator.Selector
/-!
# Credentials and their references

Where a credential stands in a configuration, a reference to a key stands in the resource, and the
object of the secrets has an entry for the key.

* `Replaces` : the references of a resource and the keys of the secrets belong to the credentials
  of the configuration, and no others.
* `Restores` : every reference leads to the credential that it stands for.
* `Apart` : no two receivers whose names make the same keys have different credentials at the same
  place of their channels.
* `convert_restores_iff` : **a configuration comes apart into a resource and its secrets, and its
  credentials are restored just if they are apart.** Receivers whose names differ only in what may
  not stand in a key can take each other's credentials away (`convert_loses_credential`).
-/

namespace MonitoringConfig

/-! ### Entries on top of each other -/

namespace Value

theorem equal_text_of_equal {k : Value} {a : String} (h : k.equal (text a) = true) (b : String) :
    k.equal (text b) = (a == b) := by
  cases k <;> simp_all [equal, asScalar?]

theorem lookup?_eq (key : Value) (entries : List (Value × Value)) :
    lookup? key entries = (entries.find? (·.1.equal key)).map (·.2) := rfl

theorem lookup?_insertEntry (entries : List (Value × Value)) (a key : String) (v : Value) :
    lookup? (text key) (insertEntry entries (text a) v) =
      if a = key then some v else lookup? (text key) entries := by
  rw [insertEntry_eq, lookup?_eq, lookup?_eq]
  cases hany : entries.any (·.1.equal (text a)) with
  | true =>
    -- The keys are what they were, so the search stops where it stopped.
    have hfind : (entries.map fun e => if e.1.equal (text a) then (e.1, v) else e).find?
          (·.1.equal (text key)) =
        (entries.find? (·.1.equal (text key))).map
          fun e => if e.1.equal (text a) then (e.1, v) else e := by
      rw [List.find?_map]
      congr 2
      funext e
      simp only [Function.comp_apply]
      split <;> rfl
    rw [if_pos rfl, hfind]
    by_cases h : a = key
    · subst h
      obtain ⟨e, he⟩ := Option.isSome_iff_exists.1 (List.find?_isSome.2 (List.any_eq_true.1 hany))
      have hequal := List.find?_some he
      rw [he, if_pos rfl]
      simp [hequal]
    · rw [if_neg h]
      cases he : entries.find? (·.1.equal (text key)) with
      | none => rfl
      | some e =>
        have hkey : e.1.equal (text key) = true := by
          simpa using List.find?_some he
        have hother : e.1.equal (text a) = false := by
          rw [equal_text_of_equal hkey]
          simpa using Ne.symm h
        simp [hother]
  | false =>
    -- The new entry stands behind the others, so it is found if no other is.
    rw [if_neg (by simp), List.find?_append]
    by_cases h : a = key
    · subst h
      have hnone : entries.find? (·.1.equal (text a)) = none := by
        simpa using hany
      simp [hnone]
    · have hnew : ((text a).equal (text key)) = false := by simpa using h
      simp [h, hnew]

/-- What is found under a key is the last of what was put there. -/
theorem lookup?_insertEntries {more : List (Value × Value)} (hmore : ∀ e ∈ more, ∃ a, e.1 = text a)
    (entries : List (Value × Value)) (key : String) :
    lookup? (text key) (insertEntries entries more) =
      (lookup? (text key) more.reverse).or (lookup? (text key) entries) := by
  induction more generalizing entries with
  | nil => rfl
  | cons e more ih =>
    obtain ⟨k, v⟩ := e
    obtain ⟨a, rfl⟩ := hmore (k, v) List.mem_cons_self
    rw [insertEntries, List.foldl_cons, ← insertEntries,
      ih (fun e he => hmore e (List.mem_cons_of_mem _ he)), lookup?_insertEntry, List.reverse_cons,
      lookup?_eq, lookup?_eq, lookup?_eq, List.find?_append]
    cases more.reverse.find? (·.1.equal (text key)) with
    | some e => simp
    | none =>
      by_cases h : a = key <;> simp [h]

/-- What is put into an empty mapping stands there under its key, or something else that was put
there under the same key. -/
theorem exists_lookup?_insertEntries {more : List (Value × Value)}
    (hmore : ∀ e ∈ more, ∃ a, e.1 = text a) {key : String} {v : Value}
    (h : (text key, v) ∈ more) :
    ∃ w, (text key, w) ∈ more ∧ lookup? (text key) (insertEntries [] more) = some w := by
  have hsome : (more.reverse.find? (·.1.equal (text key))).isSome = true := by
    rw [List.find?_isSome]
    exact ⟨(text key, v), List.mem_reverse.2 h, by simp⟩
  obtain ⟨e, he⟩ := Option.isSome_iff_exists.1 hsome
  have hmem := List.mem_reverse.1 (List.mem_of_find?_eq_some he)
  have hkey := List.find?_some he
  obtain ⟨k, w⟩ := e
  obtain ⟨a, rfl⟩ := hmore (k, w) hmem
  obtain rfl : a = key := by simpa using hkey
  refine ⟨w, hmem, ?_⟩
  rw [lookup?_insertEntries hmore, lookup?_eq, he]
  rfl

/-- The keys of a mapping are those of what was put into it. -/
theorem key_mem_of_mem_insertEntries {entries more : List (Value × Value)} {e : Value × Value}
    (h : e ∈ insertEntries entries more) :
    (∃ v, (e.1, v) ∈ entries) ∨ ∃ v, (e.1, v) ∈ more := by
  induction more generalizing entries with
  | nil => exact .inl ⟨e.2, h⟩
  | cons a more ih =>
    obtain ⟨k, v⟩ := a
    obtain ⟨w, hw⟩ | ⟨w, hw⟩ := ih h
    · simp only [insertEntry] at hw
      split at hw
      · obtain ⟨⟨k', w'⟩, he', heq⟩ := List.mem_map.1 hw
        refine .inl ⟨w', ?_⟩
        split at heq <;> cases heq <;> exact he'
      · obtain hw | hw := List.mem_append.1 hw
        · exact .inl ⟨w, hw⟩
        · obtain heq := List.mem_singleton.1 hw
          cases heq
          exact .inr ⟨_, List.mem_cons_self⟩
    · exact .inr ⟨w, List.mem_cons_of_mem _ hw⟩

end Value

namespace Conversion

/-! ### Credentials of a configuration -/

/-- What a credential says; what is empty is none. -/
def credentialIn : Value → Option String
  | .secret s => if s.isEmpty then none else some s.reveal
  | .text s => if s.isEmpty then none else some s
  | _ => none

/-- Where a channel stands: the position of its receiver, its kind, and its position among the
channels of its kind. -/
structure Place where
  receiver : Nat
  kind : Channel
  index : Nat

namespace Place

/-- The channel that stands at a place, given the receivers. -/
def channel? (p : Place) (receivers : Value) : Option Value :=
  receivers.elements[p.receiver]?.bind fun r => (r.get p.kind.field).elements[p.index]?

/-- The name of the receiver of a place. -/
def receiverName (p : Place) (config : Value) : String :=
  ((config.get "receivers").elements[p.receiver]?.map nameOf).getD ""

/-- The credential in effect in a slot of the channel at a place: that of the channel, or the global
one that it falls back to. -/
def credential? (p : Place) (config : Value) (s : Slot) : Option String :=
  if s ∈ Slot.ofChannel p.kind then
    (p.channel? (config.get "receivers")).bind fun v =>
      credentialIn (s.read (settled (globalsOf config) p.kind v))
  else none

/-- The key of a slot of the channel at a place. -/
def key (p : Place) (config : Value) (s : Slot) : String :=
  keyOf (s.nameIn (channelName (p.receiverName config) p.kind p.index))

end Place

/-! ### What is kept -/

/-- Whether something can be a credential: a secret or a text, or nothing. -/
def IsCredential (v : Value) : Prop :=
  v = .null ∨ (∃ s, v = .secret s) ∨ ∃ s, v = .text s

theorem credentialIn_eq_some_iff {v : Value} (hv : IsCredential v) (t : String) :
    credentialIn v = some t ↔ v.isTruthy = true ∧ keptValue v = .text t := by
  obtain rfl | ⟨s, rfl⟩ | ⟨s, rfl⟩ := hv
  · simp [credentialIn, Value.isTruthy]
  · simp only [credentialIn, Value.isTruthy, keptValue, Value.text.injEq]
    cases s.isEmpty <;> simp
  · simp only [credentialIn, Value.isTruthy, keptValue, Value.text.injEq]
    cases s.isEmpty <;> simp

theorem exists_credentialIn {v : Value} (hv : IsCredential v) (h : v.isTruthy = true) :
    ∃ t, credentialIn v = some t := by
  obtain rfl | ⟨s, rfl⟩ | ⟨s, rfl⟩ := hv
  · cases h
  · exact ⟨s.reveal, (credentialIn_eq_some_iff (.inr (.inl ⟨s, rfl⟩)) _).2 ⟨h, rfl⟩⟩
  · exact ⟨s, (credentialIn_eq_some_iff (.inr (.inr ⟨s, rfl⟩)) _).2 ⟨h, rfl⟩⟩

theorem isCredential_of_optional_secret {v : Value} (h : v.fits (.optional .secret) = true) :
    IsCredential v := by
  obtain rfl | h := Value.fits_optional h
  · exact .inl rfl
  · exact .inr (.inl (Value.eq_secret_of_fits h))

variable {v config resource secret : Value} {c : Channel} {s : Slot} {names : Names}

/-- What may be missing in what may be missing. -/
theorem get_fits_optional {kind : Kind} {name : String} {t : FieldType}
    (hv : v.fits (.optional (.entity kind)) = true)
    (ht : kind.schema.type? name = some (.optional t)) :
    (v.get name).fits (.optional t) = true := by
  obtain rfl | hv := Value.fits_optional hv
  · rfl
  · exact (Value.get_fits hv ht).2

/-- A channel without a client has nothing in its place. -/
theorem client_fits (hv : v.fits (.entity c.source) = true) :
    (v.get "http_config").fits (.optional (.entity .httpConfig)) = true := by
  by_cases hname : "http_config" ∈ c.source.schema.names
  · exact (Value.get_fits hv (c.declared.type_client hname)).2
  · rw [Value.get, Value.field?_eq_ite hv c.declared.names_nodup, if_neg hname]
    rfl

/-- What stands in a slot can be a credential. -/
theorem isCredential_read (hv : v.fits (.entity c.source) = true) (hs : s ∈ Slot.ofChannel c) :
    IsCredential (s.read v) := by
  have hclient := client_fits hv
  have hauth := get_fits_optional hclient
    (rfl : Kind.httpConfig.schema.type? "basic_auth" = some (.optional (.entity .basicAuth)))
  cases s with
  | setting name =>
    have hsecret : name ∈ secretFields c.source := by simpa [Slot.ofChannel] using hs
    exact isCredential_of_optional_secret (Value.get_fits hv (c.declared.type_secretFields _ hsecret)).2
  | username =>
    obtain hnull | hauth := Value.fits_optional hauth
    · rw [Slot.read, hnull]
      exact .inl rfl
    · exact .inr (.inr (Value.eq_text_of_fits
        (Value.get_fits hauth (rfl : Kind.basicAuth.schema.type? "username" = _)).2))
  | password => exact isCredential_of_optional_secret (get_fits_optional hauth rfl)
  | bearerToken => exact isCredential_of_optional_secret (get_fits_optional hclient rfl)

theorem mem_keep_iff (hv : IsCredential v) (key : String) (e : Kept) :
    e ∈ keep key v ↔ ∃ t, credentialIn v = some t ∧ e = (.text key, .text t) := by
  simp only [credentialIn_eq_some_iff hv]
  rw [keep]
  cases htruthy : v.isTruthy with
  | false => simp
  | true =>
    obtain rfl | ⟨s, rfl⟩ | ⟨s, rfl⟩ := hv
    · cases htruthy
    · simp [keptValue]
    · simp [keptValue]

namespace Place

/-- The channels of a configuration are of their kinds. -/
theorem channel?_fits (hconfig : config.fits (.entity .routingConfig) = true) {p : Place}
    (h : p.channel? (config.get "receivers") = some v) :
    v.fits (.entity p.kind.source) = true := by
  obtain ⟨r, hr, hv⟩ := Option.bind_eq_some_iff.1 h
  have hreceivers := Value.elements_fits hconfig (rfl : Kind.routingConfig.schema.type? "receivers" = _)
  have hchannels := Value.elements_fits (hreceivers.2 r (List.mem_of_getElem? hr)) p.kind.declared.type_field
  exact hchannels.2 v (List.mem_of_getElem? hv)

theorem credential?_eq_some_iff {p : Place} {t : String} :
    p.credential? config s = some t ↔ s ∈ Slot.ofChannel p.kind ∧
      ∃ v, p.channel? (config.get "receivers") = some v ∧
        credentialIn (s.read (settled (globalsOf config) p.kind v)) = some t := by
  rw [credential?]
  split
  · next h => simp [h, Option.bind_eq_some_iff]
  · next h => simp [h]

end Place

/-- **What is kept of a configuration are its credentials**, under the keys of their places. -/
theorem mem_keptConfig_iff (hconfig : config.fits (.entity .routingConfig) = true) (e : Kept) :
    e ∈ keptConfig config ↔ ∃ (p : Place) (s : Slot) (t : String),
      p.credential? config s = some t ∧ e = (.text (p.key config s), .text t) := by
  have hglobals := globalsOf_fits hconfig
  constructor
  · intro h
    simp only [keptConfig, keptReceiver, keptChannels, keptOf, List.mem_flatMap,
      List.mem_zipIdx_iff_getElem?] at h
    obtain ⟨r, hr, c, -, ⟨v, j⟩, hv, s, hs, he⟩ := h
    obtain ⟨i, hi⟩ := List.mem_iff_getElem?.1 hr
    -- The place is told by the positions at which the loops stood.
    let p : Place := ⟨i, c, j⟩
    have hchannel : p.channel? (config.get "receivers") = some v := by
      simp only [Place.channel?, p, hi, Option.bind_some]
      exact hv
    have hfits := (withGlobals_eq (p.channel?_fits hconfig hchannel) hglobals).2
    obtain ⟨t, ht, rfl⟩ := (mem_keep_iff (isCredential_read hfits hs) _ e).1 he
    refine ⟨p, s, t, Place.credential?_eq_some_iff.2 ⟨hs, v, hchannel, ht⟩, ?_⟩
    simp [Place.key, Place.receiverName, p, hi]
  · rintro ⟨p, s, t, ht, rfl⟩
    obtain ⟨hs, v, hchannel, ht⟩ := Place.credential?_eq_some_iff.1 ht
    obtain ⟨r, hr, hv⟩ := Option.bind_eq_some_iff.1 hchannel
    have hfits := (withGlobals_eq (p.channel?_fits hconfig hchannel) hglobals).2
    have hkind : p.kind ∈ Channel.all := by cases p.kind <;> decide
    simp only [keptConfig, keptReceiver, keptChannels, keptOf, List.mem_flatMap,
      List.mem_zipIdx_iff_getElem?]
    refine ⟨r, List.mem_of_getElem? hr, p.kind, hkind, (v, p.index), hv, s, hs, ?_⟩
    refine (mem_keep_iff (isCredential_read hfits hs) _ _).2 ⟨t, ht, ?_⟩
    simp [Place.key, Place.receiverName, hr]

/-! ### Channels of the resource -/

/-- The receivers of a resource. -/
def receiversIn (resource : Value) : Value :=
  (resource.get "spec").get "receivers"

theorem get_receiverOf (store defaults v : Value) (c : Channel) :
    (receiverOf store defaults v).get c.field =
      .list (channelsOf store defaults c (nameOf v) 0 (v.get c.field).elements) := by
  cases c <;> rfl

/-- **The channels of the resource stand where they stood**, each converted. -/
theorem Place.channel?_resourceOf (p : Place) :
    p.channel? (receiversIn (resourceOf names config)) =
      (p.channel? (config.get "receivers")).map fun v =>
        channelOf names.storeName (channelName (p.receiverName config) p.kind p.index) p.kind
          (settled (globalsOf config) p.kind v) := by
  have hreceivers : receiversIn (resourceOf names config) = .list (receiversOf names config) := rfl
  rw [channel?, channel?, receiverName, hreceivers, Value.elements_list, receiversOf,
    List.getElem?_map]
  cases (config.get "receivers").elements[p.receiver]? with
  | none => rfl
  | some r =>
    simp only [Option.map_some, Option.bind_some, get_receiverOf, Value.elements_list, channelsOf,
      List.getElem?_map, List.getElem?_zipIdx, Option.map_map, Option.getD_some, Function.comp_def,
      Nat.zero_add]

/-! ### References and keys -/

/-- What an object of secrets is called. -/
def nameIn (secret : Value) : Value :=
  (secret.get "metadata").get "name"

/-- The entries of an object of secrets. -/
def dataIn (secret : Value) : List (Value × Value) :=
  entriesIn (secret.get "string_data")

/-- The references of a resource and the keys of its secrets are what the credentials of a
configuration call for. -/
structure Replaces (config resource secret : Value) : Prop where
  /-- A reference to a key stands in the place of every credential. -/
  referenced : ∀ (p : Place) (s : Slot) (t : String), p.credential? config s = some t →
    ∃ v, p.channel? (receiversIn resource) = some v ∧ v.at? s.path =
      some (.entity .secretKeySelector [nameIn secret, .text (p.key config s), .null])
  /-- Every reference in a channel, however deep, is one of these. -/
  accounted : ∀ (p : Place) (v : Value) (path : List String) (fields : List Value),
    p.channel? (receiversIn resource) = some v →
      v.at? path = some (.entity .secretKeySelector fields) → ∃ (s : Slot) (t : String),
        s.path = path ∧ p.credential? config s = some t ∧
          fields = [nameIn secret, .text (p.key config s), .null]
  /-- Every key is the key of one of these. -/
  used : ∀ e ∈ dataIn secret, ∃ (p : Place) (s : Slot) (t : String),
    p.credential? config s = some t ∧ e.1 = .text (p.key config s)

/-- Every reference in a channel, however deep, names the object of the secrets, and what stands
there under its key is the credential that the reference replaces. -/
def Restores (config resource secret : Value) : Prop :=
  ∀ (p : Place) (v : Value) (path : List String) (fields : List Value),
    p.channel? (receiversIn resource) = some v →
      v.at? path = some (.entity .secretKeySelector fields) →
        ∃ (s : Slot) (key t : String), s.path = path ∧ p.credential? config s = some t ∧
          fields = [nameIn secret, .text key, .null] ∧
            Value.lookup? (.text key) (dataIn secret) = some (.text t)

/-- No two different credentials share a key. -/
def KeysDiffer (config : Value) : Prop :=
  ∀ (p q : Place) (s s' : Slot) (t t' : String), p.credential? config s = some t →
    q.credential? config s' = some t' → p.key config s = q.key config s' → t = t'

/-- No two receivers whose names make the same keys have different credentials in the same slot of
channels of one kind and position. -/
def Apart (config : Value) : Prop :=
  ∀ (p q : Place) (s : Slot) (t t' : String), p.kind = q.kind → p.index = q.index →
    keyOf (p.receiverName config) = keyOf (q.receiverName config) →
      p.credential? config s = some t → q.credential? config s = some t' → t = t'

theorem keysDiffer_iff_apart : KeysDiffer config ↔ Apart config := by
  constructor
  · rintro h ⟨i, c, j⟩ ⟨i', c', j'⟩ s t t' hkind hindex hname ht ht'
    obtain rfl : c = c' := hkind
    obtain rfl : j = j' := hindex
    have hs := (Place.credential?_eq_some_iff.1 ht).1
    exact h _ _ s s t t' ht ht' ((keyOf_slot_inj hs hs).2 ⟨hname, rfl, rfl, rfl⟩)
  · intro h p q s s' t t' ht ht' hkey
    have hs := (Place.credential?_eq_some_iff.1 ht).1
    have hs' := (Place.credential?_eq_some_iff.1 ht').1
    obtain ⟨hname, hkind, hindex, rfl⟩ := (keyOf_slot_inj hs hs').1 hkey
    exact h p q s t t' hkind hindex hname ht ht'

/-- Receivers whose names make different keys are apart. -/
theorem apart_of_nodup
    (h : ((config.get "receivers").elements.map fun r => keyOf (nameOf r)).Nodup) :
    Apart config := by
  rintro ⟨i, c, j⟩ ⟨i', c', j'⟩ s t t' hkind hindex hname ht ht'
  obtain rfl : c = c' := hkind
  obtain rfl : j = j' := hindex
  obtain ⟨-, v, hv, -⟩ := Place.credential?_eq_some_iff.1 ht
  obtain ⟨-, v', hv', -⟩ := Place.credential?_eq_some_iff.1 ht'
  obtain ⟨r, hr, -⟩ := Option.bind_eq_some_iff.1 hv
  obtain ⟨r', hr', -⟩ := Option.bind_eq_some_iff.1 hv'
  have hlength : i < ((config.get "receivers").elements.map fun r => keyOf (nameOf r)).length := by
    rw [List.length_map]
    exact (List.getElem?_eq_some_iff.1 hr).1
  obtain rfl : i = i' := (List.getElem?_inj hlength h).1 <| by
    simpa [List.getElem?_map, Place.receiverName, hr, hr'] using hname
  rw [ht] at ht'
  exact Option.some.inj ht'

/-! ### What the conversion keeps -/

/-- Whether what the two objects are to be called is of the types that it is declared with. -/
def Names.isTyped (names : Names) : Bool :=
  names.name.fits .text && names.space.fits .text && names.store.fits (.optional .text)
    && names.labels.fits (.optional (.mapOf .text))

theorem Names.labels_fits (hnames : names.isTyped = true) :
    names.labels.fits (.optional (.mapOf .text)) = true := by
  simp only [isTyped, Bool.and_eq_true] at hnames
  exact hnames.2

theorem Names.storeName_eq_text (hnames : names.isTyped = true) :
    ∃ store, names.storeName = .text store := by
  simp only [isTyped, Bool.and_eq_true] at hnames
  rw [storeName, Value.orElse]
  split
  · next htruthy =>
    obtain hnull | htext := Value.fits_optional hnames.1.2
    · rw [hnull] at htruthy
      cases htruthy
    · exact Value.eq_text_of_fits htext
  · exact ⟨_, rfl⟩

theorem dataIn_secretOf : dataIn (secretOf names config) =
    Value.insertEntries [] (keptConfig config) := rfl

theorem keptConfig_texts (hconfig : config.fits (.entity .routingConfig) = true) :
    ∀ e ∈ keptConfig config, ∃ key, e.1 = .text key := by
  intro e he
  obtain ⟨p, s, t, -, rfl⟩ := (mem_keptConfig_iff hconfig e).1 he
  exact ⟨p.key config s, rfl⟩

/-- What stands under the key of a credential is a credential with the same key. -/
theorem exists_lookup?_secretOf (names : Names)
    (hconfig : config.fits (.entity .routingConfig) = true) {p : Place} {t : String}
    (ht : p.credential? config s = some t) :
    ∃ (q : Place) (s' : Slot) (t' : String), q.credential? config s' = some t' ∧
      p.key config s = q.key config s' ∧
      Value.lookup? (.text (p.key config s)) (dataIn (secretOf names config)) =
        some (.text t') := by
  have hmem := (mem_keptConfig_iff hconfig _).2 ⟨p, s, t, ht, rfl⟩
  obtain ⟨w, hw, hlookup⟩ :=
    Value.exists_lookup?_insertEntries (keptConfig_texts hconfig) hmem
  obtain ⟨q, s', t', ht', heq⟩ := (mem_keptConfig_iff hconfig _).1 hw
  obtain ⟨hkey, rfl⟩ := Prod.mk.inj heq
  exact ⟨q, s', t', ht', Value.text.inj hkey, hlookup⟩

/-- A reference to its key stands in the place of every credential. -/
theorem referenced_resourceOf (hconfig : config.fits (.entity .routingConfig) = true)
    (hnames : names.isTyped = true) {p : Place} {t : String}
    (ht : p.credential? config s = some t) :
    ∃ v, p.channel? (receiversIn (resourceOf names config)) = some v ∧ v.at? s.path =
      some (.entity .secretKeySelector
        [nameIn (secretOf names config), .text (p.key config s), .null]) := by
  obtain ⟨store, hstore⟩ := Names.storeName_eq_text hnames
  obtain ⟨hs, v, hv, ht⟩ := Place.credential?_eq_some_iff.1 ht
  have hfits := (withGlobals_eq (p.channel?_fits hconfig hv) (globalsOf_fits hconfig)).2
  have htruthy := ((credentialIn_eq_some_iff (isCredential_read hfits hs) t).1 ht).1
  have hname : nameIn (secretOf names config) = .text store := hstore
  refine ⟨_, by rw [Place.channel?_resourceOf, hv]; rfl, ?_⟩
  rw [hname, hstore]
  exact at?_channelOf hfits hs htruthy

/-- Every reference in a channel stands in the place of a credential. -/
theorem accounted_resourceOf (hconfig : config.fits (.entity .routingConfig) = true)
    (hnames : names.isTyped = true) {p : Place} {path : List String} {fields : List Value}
    (hv : p.channel? (receiversIn (resourceOf names config)) = some v)
    (hpath : v.at? path = some (.entity .secretKeySelector fields)) :
    ∃ (s : Slot) (t : String), s.path = path ∧ p.credential? config s = some t ∧
      fields = [nameIn (secretOf names config), .text (p.key config s), .null] := by
  obtain ⟨store, hstore⟩ := Names.storeName_eq_text hnames
  have hchannel := hv
  rw [Place.channel?_resourceOf] at hchannel
  obtain ⟨w, hw, rfl⟩ := Option.map_eq_some_iff.1 hchannel
  have hfits := (withGlobals_eq (p.channel?_fits hconfig hw) (globalsOf_fits hconfig)).2
  have hselects : (channelOf (.text store) (channelName (p.receiverName config) p.kind p.index)
      p.kind (settled (globalsOf config) p.kind w)).Selects path := ⟨fields, hstore ▸ hpath⟩
  obtain ⟨s, hs, rfl, htruthy⟩ := selects_channelOf hfits hselects
  obtain ⟨t, ht⟩ := exists_credentialIn (isCredential_read hfits hs) htruthy
  have hcredential := Place.credential?_eq_some_iff.2 ⟨hs, w, hw, ht⟩
  obtain ⟨v, hv', hreference⟩ := referenced_resourceOf hconfig hnames hcredential
  obtain rfl := Option.some.inj (hv.symm.trans hv')
  exact ⟨s, t, rfl, hcredential, by simpa using hpath.symm.trans hreference⟩

theorem replaces_of_convert (hconfig : config.fits (.entity .routingConfig) = true)
    (hnames : names.isTyped = true) :
    Replaces config (resourceOf names config) (secretOf names config) where
  referenced _ _ _ ht := referenced_resourceOf hconfig hnames ht
  accounted _ _ _ _ hv hpath := accounted_resourceOf hconfig hnames hv hpath
  used e he := by
    rw [dataIn_secretOf] at he
    obtain ⟨w, hw⟩ | ⟨w, hw⟩ := Value.key_mem_of_mem_insertEntries he
    · cases hw
    · obtain ⟨p, s, t, ht, heq⟩ := (mem_keptConfig_iff hconfig _).1 hw
      exact ⟨p, s, t, ht, (Prod.mk.inj heq).1⟩

/-- **References lead to their credentials just if no two different credentials share a key**: what
is put under a key takes the place of what was there. -/
theorem restores_iff_keysDiffer (hconfig : config.fits (.entity .routingConfig) = true)
    (hnames : names.isTyped = true) :
    Restores config (resourceOf names config) (secretOf names config) ↔ KeysDiffer config := by
  constructor
  · intro h p q s s' t t' ht ht' hkey
    have hlookup {p : Place} {s : Slot} {t : String} (ht : p.credential? config s = some t) :
        Value.lookup? (.text (p.key config s)) (dataIn (secretOf names config)) =
          some (.text t) := by
      obtain ⟨v, hv, hpath⟩ := referenced_resourceOf hconfig hnames ht
      obtain ⟨s₁, key, t₁, hs₁, ht₁, hfields, hdata⟩ := h p v s.path _ hv hpath
      obtain rfl : s₁ = s := Slot.path_inj hs₁
      obtain rfl : t₁ = t := Option.some.inj (ht₁.symm.trans ht)
      obtain rfl : key = p.key config s₁ := by simpa using hfields.symm
      exact hdata
    have hsame := (hlookup ht).symm.trans (hkey ▸ hlookup ht')
    simpa using hsame
  · intro h p v path fields hv hpath
    obtain ⟨s, t, rfl, ht, hfields⟩ := accounted_resourceOf hconfig hnames hv hpath
    obtain ⟨q, s', t', ht', hkey, hlookup⟩ := exists_lookup?_secretOf names hconfig ht
    refine ⟨s, p.key config s, t, rfl, ht, hfields, ?_⟩
    rw [hlookup, h p q s s' t t' ht ht' hkey]

/-- **A configuration comes apart into a resource and its secrets.** A reference stands for every
credential, and every key belongs to one. The credentials are restored just if receivers whose names
make the same keys agree on them. -/
theorem convert_restores_iff {names : Names} {config : Value}
    (hconfig : config.fits (.entity .routingConfig) = true) (hnames : names.isTyped = true) :
    ∃ resource secret, (convert names config).result = .ok (resource, secret) ∧
      Replaces config resource secret ∧ (Restores config resource secret ↔ Apart config) ∧
        (KeysDiffer config ↔ Apart config) := by
  have hlabels : names.labels.fits (.optional (.mapOf .text)) = true := by
    simp only [Names.isTyped, Bool.and_eq_true] at hnames
    exact hnames.2
  exact ⟨resourceOf names config, secretOf names config, convert_eq hconfig hlabels,
    replaces_of_convert hconfig hnames,
    (restores_iff_keysDiffer hconfig hnames).trans keysDiffer_iff_apart, keysDiffer_iff_apart⟩

/-- A configuration with two receivers, each with a channel of one kind that has its own secret. -/
def twoReceivers (first second : String) : Value :=
  .build .routingConfig [("receivers", .list [
    .build .receiver [("name", .text first), ("slack_configs", .list
      [.build .slackConfig [("api_url", .secret ⟨"https://hooks.example/one"⟩)]])],
    .build .receiver [("name", .text second), ("slack_configs", .list
      [.build .slackConfig [("api_url", .secret ⟨"https://hooks.example/two"⟩)]])]])]

/-- The names of the two objects of a team. -/
def teamNames : Names :=
  ⟨.text "team", .text "monitoring", .null, .null⟩

/-- Names that are made of characters of keys keep their receivers apart. -/
theorem convert_restores_iff_keyNames :
    let config := twoReceivers "a.b" "a-b"
    config.fits (.entity .routingConfig) = true ∧ teamNames.isTyped = true ∧
      ∃ resource secret, (convert teamNames config).result = .ok (resource, secret) ∧
        Restores config resource secret := by
  intro config
  have hconfig : config.fits (.entity .routingConfig) = true := by decide
  have hnames : teamNames.isTyped = true := by decide
  have hapart : Apart config := apart_of_nodup (by decide)
  obtain ⟨resource, secret, hresult, -, hrestores, -⟩ := convert_restores_iff hconfig hnames
  exact ⟨hconfig, hnames, resource, secret, hresult, hrestores.2 hapart⟩

/-- **A receiver can lose its credential**, although its name is its own: a blank and a dash make
the same key. -/
theorem convert_loses_credential :
    let config := twoReceivers "a b" "a-b"
    config.fits (.entity .routingConfig) = true ∧ teamNames.isTyped = true ∧
      ((config.get "receivers").elements.map nameOf).Nodup ∧
        ∃ resource secret, (convert teamNames config).result = .ok (resource, secret) ∧
          ¬ Restores config resource secret := by
  intro config
  have hconfig : config.fits (.entity .routingConfig) = true := by decide
  have hnames : teamNames.isTyped = true := by decide
  have hnodup : ((config.get "receivers").elements.map nameOf).Nodup := by decide
  have hone : Place.credential? ⟨0, .slack, 0⟩ config (.setting "api_url") =
      some "https://hooks.example/one" := by decide
  have htwo : Place.credential? ⟨1, .slack, 0⟩ config (.setting "api_url") =
      some "https://hooks.example/two" := by decide
  have hkey : Place.key ⟨0, .slack, 0⟩ config (.setting "api_url") =
      Place.key ⟨1, .slack, 0⟩ config (.setting "api_url") := by decide
  refine ⟨hconfig, hnames, hnodup, resourceOf teamNames config, secretOf teamNames config,
    convert_eq hconfig rfl, fun hrestores => ?_⟩
  have hsame := (restores_iff_keysDiffer hconfig hnames).1 hrestores _ _ _ _ _ _ hone htwo hkey
  exact absurd hsame (by decide)

end Conversion

end MonitoringConfig
