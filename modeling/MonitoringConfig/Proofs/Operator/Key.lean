import MonitoringConfig.Operator.Conversion
import MonitoringConfig.Proofs.Number.Text
/-!
# Keys of secrets

The key of a secret is made of the name of its receiver, the kind of its channel, the position of
the channel and the place in the channel. What may not stand in a key becomes a dash, and that is
the one thing that is lost.

* `Slot` : the places in a channel where a credential stands.
* `keyOf_slot` : all but the name of the receiver stands in a key as it is.
* `keyOf_slot_inj` : **keys tell all places apart, as far as they tell the receivers apart.**
* `keyOf_injOn` : they do for receivers whose names are made of characters of keys.
-/

namespace MonitoringConfig.Conversion

open Decimal

/-! ### Places in a channel -/

/-- The kind of entity of a channel in a configuration. -/
def Channel.source : Channel → Kind
  | email => .emailConfig
  | slack => .slackConfig
  | pagerDuty => .pagerDutyConfig
  | webhook => .webhookConfig
  | opsGenie => .opsGenieConfig

/-- A place in a channel where a credential stands: a setting of the channel, or one of the
credentials of its client. -/
inductive Slot where
  | setting (name : String)
  | username | password | bearerToken
  deriving DecidableEq, Repr

namespace Slot

/-- The slots of the channels of a kind. -/
def ofChannel (c : Channel) : List Slot :=
  (secretFields c.source).map setting ++ [username, password, bearerToken]

/-- What the slot is called, given what its channel is called. -/
def nameIn (channel : String) : Slot → String
  | setting name => channel ++ "-" ++ name
  | username => channel ++ "-http" ++ "-username"
  | password => channel ++ "-http" ++ "-password"
  | bearerToken => channel ++ "-http" ++ "-bearer-token"

/-- What stands in the name of a slot between that of the channel and the last dash. -/
def front : Slot → List Char
  | setting _ => []
  | username | password => "-http".toList
  | bearerToken => "-http-bearer".toList

/-- What stands in the name of a slot behind the last dash. -/
def word : Slot → List Char
  | setting name => name.toList
  | username => "username".toList
  | password => "password".toList
  | bearerToken => "token".toList

theorem toList_client (channel : String) {rest : String} {front word : List Char}
    (h : "-http".toList ++ rest.toList = front ++ '-' :: word) :
    (channel ++ "-http" ++ rest).toList = channel.toList ++ (front ++ '-' :: word) := by
  rw [String.toList_append, String.toList_append, List.append_assoc, h]

theorem toList_nameIn (channel : String) (s : Slot) :
    (s.nameIn channel).toList = channel.toList ++ (s.front ++ '-' :: s.word) := by
  cases s with
  | setting name =>
    show (channel ++ "-" ++ name).toList = _
    rw [String.toList_append, String.toList_append, List.append_assoc]
    rfl
  | username => exact toList_client channel (by decide)
  | password => exact toList_client channel (by decide)
  | bearerToken => exact toList_client channel (by decide)

/-- The slots of the channels of all kinds. -/
def all : List Slot :=
  [setting "auth_password", setting "auth_secret", setting "api_url", setting "routing_key",
    setting "service_key", setting "api_key", username, password, bearerToken]

variable {c d : Channel} {s t : Slot}

theorem mem_all (hs : s ∈ ofChannel c) : s ∈ all := by
  have hall : (ofChannel c).all (all.contains ·) = true := by cases c <;> decide
  exact List.contains_iff_mem.1 (List.all_eq_true.1 hall s hs)

theorem isKeyChar_of_mem (hs : s ∈ ofChannel c) :
    ∀ x ∈ s.front ++ '-' :: s.word, isKeyChar x = true := by
  have hall : all.all (fun s => (s.front ++ '-' :: s.word).all isKeyChar) = true := by
    decide
  exact List.all_eq_true.1 (List.all_eq_true.1 hall s (mem_all hs))

theorem dash_notMem_word (hs : s ∈ ofChannel c) : '-' ∉ s.word := by
  have hall : ∀ s ∈ all, '-' ∉ s.word := by decide
  exact hall s (mem_all hs)

/-- The last word tells all slots apart, those of channels of different kinds too. -/
theorem eq_of_word_eq (hs : s ∈ ofChannel c) (ht : t ∈ ofChannel d) (h : s.word = t.word) :
    s = t := by
  have hall : ∀ s ∈ all, ∀ t ∈ all, s.word = t.word → s = t := by decide
  exact hall s (mem_all hs) t (mem_all ht) h

end Slot

/-- What a channel is called in keys. -/
def channelName (receiver : String) (c : Channel) (index : Nat) : String :=
  receiver ++ "-" ++ c.name ++ "-" ++ String.ofList (digitsText index)

/-! ### Characters of keys -/

theorem keyChars_of_isKeyChar {cs : List Char} (h : ∀ c ∈ cs, isKeyChar c = true)
    (replaced : Bool) : keyChars replaced cs = cs := by
  induction cs generalizing replaced with
  | nil => rfl
  | cons c cs ih =>
    rw [keyChars, if_pos (h c List.mem_cons_self),
      ih fun x hx => h x (List.mem_cons_of_mem _ hx)]

/-- What is made of characters of keys stays as it is behind anything. -/
theorem keyChars_append {xs ys : List Char} {c : Char} (hc : isKeyChar c = true)
    (hys : ∀ y ∈ ys, isKeyChar y = true) (replaced : Bool) :
    keyChars replaced (xs ++ c :: ys) = keyChars replaced xs ++ c :: ys := by
  induction xs generalizing replaced with
  | nil =>
    show (if isKeyChar c then c :: keyChars false ys else _) = c :: ys
    rw [if_pos hc, keyChars_of_isKeyChar hys]
  | cons x xs ih =>
    rw [List.cons_append, keyChars, keyChars, ih, ih]
    split
    · rfl
    · split <;> rfl

/-- The characters of a key behind those for the receiver. -/
def keyTail (c : Channel) (index : Nat) (s : Slot) : List Char :=
  c.name.toList ++ '-' :: (digitsText index ++ (s.front ++ '-' :: s.word))

theorem isKeyChar_of_isDigit {c : Char} (h : c.isDigit = true) : isKeyChar c = true := by
  simp [isKeyChar, Char.isAlphanum, h]

theorem isKeyChar_keyTail {c : Channel} {s : Slot} (index : Nat) (hs : s ∈ Slot.ofChannel c) :
    ∀ x ∈ keyTail c index s, isKeyChar x = true := by
  have hname : ∀ x ∈ c.name.toList, isKeyChar x = true :=
    List.all_eq_true.1 (by cases c <;> decide)
  intro x hx
  rw [keyTail] at hx
  obtain hx | hx := List.mem_append.1 hx
  · exact hname x hx
  obtain rfl | hx := List.mem_cons.1 hx
  · rfl
  obtain hx | hx := List.mem_append.1 hx
  · exact isKeyChar_of_isDigit (isDigit_digitsText hx)
  · exact Slot.isKeyChar_of_mem hs x hx

/-- **All but the name of the receiver stands in a key as it is.** -/
theorem keyOf_slot {c : Channel} {s : Slot} (receiver : String) (index : Nat)
    (hs : s ∈ Slot.ofChannel c) :
    (keyOf (s.nameIn (channelName receiver c index))).toList =
      (keyOf receiver).toList ++ '-' :: keyTail c index s := by
  have hlist : (s.nameIn (channelName receiver c index)).toList =
      receiver.toList ++ '-' :: keyTail c index s := by
    simp [Slot.toList_nameIn, channelName, keyTail]
  rw [keyOf, keyOf, String.toList_ofList, String.toList_ofList, hlist,
    keyChars_append rfl (isKeyChar_keyTail index hs)]

/-! ### Different places, different keys -/

/-- What stands behind the last occurrence of an item is determined, and so is what stands before
it. -/
theorem append_cons_inj_last {α : Type} {a : α} {xs ys us vs : List α} (hys : a ∉ ys)
    (hvs : a ∉ vs) (h : xs ++ a :: ys = us ++ a :: vs) : xs = us ∧ ys = vs := by
  obtain ⟨ws, hus, hws⟩ | ⟨ws, hxs, hws⟩ := List.append_eq_append_iff.1 h
  · cases ws with
    | nil => exact ⟨by simpa using hus.symm, by simpa using hws⟩
    | cons w ws =>
      rw [List.cons_append, List.cons.injEq] at hws
      exact absurd (hws.2 ▸ List.mem_append_right ws List.mem_cons_self) hys
  · cases ws with
    | nil => exact ⟨by simpa using hxs, by simpa using hws.symm⟩
    | cons w ws =>
      rw [List.cons_append, List.cons.injEq] at hws
      exact absurd (hws.2 ▸ List.mem_append_right ws List.mem_cons_self) hvs

theorem dash_notMem_digitsText (n : Nat) : '-' ∉ digitsText n := fun h =>
  absurd (isDigit_digitsText h) (by decide)

theorem digitsText_inj {m n : Nat} (h : digitsText m = digitsText n) : m = n := by
  rw [← ofDigitChars_digitsText m, h, ofDigitChars_digitsText]

theorem Channel.eq_of_name_eq {c d : Channel} (h : c.name.toList = d.name.toList) : c = d := by
  revert h
  cases c <;> cases d <;> decide

theorem Channel.dash_notMem_name (c : Channel) : '-' ∉ c.name.toList := by
  cases c <;> decide

/-- **Keys tell all places apart, as far as they tell the receivers apart.** -/
theorem keyOf_slot_inj {R S : String} {c d : Channel} {i j : Nat} {s t : Slot}
    (hs : s ∈ Slot.ofChannel c) (ht : t ∈ Slot.ofChannel d) :
    keyOf (s.nameIn (channelName R c i)) = keyOf (t.nameIn (channelName S d j)) ↔
      keyOf R = keyOf S ∧ c = d ∧ i = j ∧ s = t := by
  constructor
  · intro h
    have hlist := congrArg String.toList h
    rw [keyOf_slot R i hs, keyOf_slot S j ht] at hlist
    -- The last word of the key gives the slot; what is left ends in the position of the channel.
    have hword : s.word = t.word := by
      have h : ((keyOf R).toList ++ '-' :: (c.name.toList ++ '-' :: (digitsText i ++ s.front))) ++
          '-' :: s.word =
          ((keyOf S).toList ++ '-' :: (d.name.toList ++ '-' :: (digitsText j ++ t.front))) ++
            '-' :: t.word := by
        simpa [keyTail] using hlist
      exact (append_cons_inj_last (Slot.dash_notMem_word hs) (Slot.dash_notMem_word ht) h).2
    obtain rfl := Slot.eq_of_word_eq hs ht hword
    have hplace : ((keyOf R).toList ++ '-' :: c.name.toList) ++ '-' :: digitsText i =
        ((keyOf S).toList ++ '-' :: d.name.toList) ++ '-' :: digitsText j := by
      refine (List.append_left_inj (s.front ++ '-' :: s.word)).1 ?_
      simpa [keyTail] using hlist
    obtain ⟨hchannel, hindex⟩ := append_cons_inj_last (dash_notMem_digitsText i)
      (dash_notMem_digitsText j) hplace
    obtain ⟨hreceiver, hname⟩ := append_cons_inj_last c.dash_notMem_name d.dash_notMem_name hchannel
    exact ⟨String.toList_inj.1 hreceiver, Channel.eq_of_name_eq hname, digitsText_inj hindex, rfl⟩
  · rintro ⟨hreceiver, rfl, rfl, rfl⟩
    rw [← String.toList_inj, keyOf_slot R i hs, keyOf_slot S i hs, hreceiver]

/-- Whether keys keep a name as it is. -/
def isKeyName (name : String) : Bool :=
  name.toList.all isKeyChar

theorem keyOf_of_isKeyName {name : String} (h : isKeyName name = true) : keyOf name = name := by
  rw [keyOf, keyChars_of_isKeyChar (List.all_eq_true.1 h), String.ofList_toList]

/-- Keys tell receivers apart whose names are made of characters of keys. -/
theorem keyOf_injOn {R S : String} (hR : isKeyName R = true) (hS : isKeyName S = true)
    (h : keyOf R = keyOf S) : R = S := by
  rwa [keyOf_of_isKeyName hR, keyOf_of_isKeyName hS] at h

end MonitoringConfig.Conversion
