import Mathlib.Data.List.DropRight
import Mathlib.Data.List.Forall2
import QueryRewriting.Proofs.Cluster.Accounts
import QueryRewriting.Proofs.Text.Words
import QueryRewriting.Settings.Reader

/-! # The normal form of settings

Settings are brought into their normal form once, when they are read. Every field but one is left as
it is by doing so again. The exception is the address of a peer: first the blanks around it are
taken away, then the slashes at its end, and the slashes may have covered a blank, as in
`http://b /`. Such an address frays.

The main statement, `Settings.normal_form_lasts_iff`, says for all settings that normalising them
twice is normalising them once exactly if no address frays; and if they are what some text was
accepted as, what the addresses in it have come to.
-/

namespace QueryRewriting

namespace Text

variable {p : Char → Bool} {cs base back front slashes : List Char} {blank c : Char}

/-! ## Trimming again -/

/-- Characters are taken off the end as the library does it. -/
theorem dropEndWhile_eq (p : Char → Bool) (cs : List Char) :
    dropEndWhile p cs = cs.rdropWhile p := rfl

/-- Trimming again changes nothing. -/
theorem trimChars_trimChars (cs : List Char) : trimChars (trimChars cs) = trimChars cs :=
  (strips_iff.mp (strips_trimChars cs).self).symm

/-- Trimming strips the blanks off both sides. -/
theorem strips_trim (text : String) : Strips text.toList (trim text).toList :=
  trim_eq_iff.mp rfl

theorem strips_self (first : ∀ c ∈ cs.head?, isBlankChar c = false)
    (last : ∀ c ∈ cs.getLast?, isBlankChar c = false) : Strips cs cs :=
  ⟨⟨[], [], blanks_nil, blanks_nil, (List.append_nil cs).symm⟩, first, last⟩

/-- A stripped text is not longer. -/
theorem Strips.length_le (strips : Strips cs base) : base.length ≤ cs.length := by
  obtain ⟨⟨front, back, -, -, rfl⟩, -, -⟩ := strips
  simp only [List.length_append]
  omega

/-- Nothing is taken off if the last character stays. -/
theorem dropEndWhile_of_getLast? (last : ∀ c ∈ cs.getLast?, p c = false) :
    dropEndWhile p cs = cs := by
  refine List.rdropWhile_eq_self_iff.mpr fun nonempty => ?_
  rw [last _ (List.getLast_mem_getLast? nonempty)]
  exact Bool.false_ne_true

/-- What is taken off the end is what goes. -/
theorem dropEndWhile_append (all : ∀ c ∈ back, p c = true)
    (last : ∀ c ∈ cs.getLast?, p c = false) : dropEndWhile p (cs ++ back) = cs := by
  have reversed : ∀ c ∈ back.reverse, p c = true := fun c member =>
    all c (List.mem_reverse.mp member)
  rw [dropEndWhile, List.reverse_append, List.dropWhile_append_of_pos reversed]
  exact dropEndWhile_of_getLast? last

/-- Taking characters off the end leaves the first one, if it leaves any. -/
theorem head?_dropEndWhile (p : Char → Bool) (cs : List Char) :
    ∀ c ∈ (dropEndWhile p cs).head?, c ∈ cs.head? := by
  intro c first
  obtain ⟨back, ends⟩ := List.rdropWhile_prefix p cs
  rw [← ends, List.head?_append, ← dropEndWhile_eq, Option.mem_def.mp first]
  rfl

/-- The last character that is left is one that stays. -/
theorem getLast?_dropEndWhile (p : Char → Bool) (cs : List Char) :
    ∀ c ∈ (dropEndWhile p cs).getLast?, p c = false := by
  intro c last
  obtain ⟨nonempty, rfl⟩ := List.mem_getLast?_eq_getLast last
  exact Bool.eq_false_iff.mpr (List.rdropWhile_last_not p cs nonempty)

/-! ## Lower case -/

/-- A capital of ASCII has its small letter so far behind it; any other character stays. -/
theorem toLower_cases (c : Char) :
    (65 ≤ c.toNat ∧ c.toNat ≤ 90 ∧ c.toLower.toNat = c.toNat + 32) ∨ c.toLower = c := by
  unfold Char.toLower
  split
  · rename_i upper
    have capital : 65 ≤ c.toNat ∧ c.toNat ≤ 90 := by
      simpa [UInt32.le_iff_toNat_le] using upper
    refine .inl ⟨capital.1, capital.2, ?_⟩
    have sum : (c.val + ('a'.val - 'A'.val)).toNat = (c.toNat + 32) % 2 ^ 32 := by
      simp [UInt32.toNat_add]
    rw [Char.toNat, sum]
    omega
  · exact .inr rfl

/-- Small letters stay small. -/
theorem toLower_toLower (c : Char) : c.toLower.toLower = c.toLower := by
  rcases toLower_cases c with ⟨_, _, small⟩ | same
  · rcases toLower_cases c.toLower with ⟨_, _, _⟩ | again
    · omega
    · exact again
  · rw [same, same]

/-- A letter is as blank as its small letter. -/
theorem isBlankChar_toLower (c : Char) : isBlankChar c.toLower = isBlankChar c := by
  rcases toLower_cases c with ⟨first, last, small⟩ | same
  · -- capitals and small letters lie between the blanks of ASCII and the others
    rw [isBlankChar, isBlankChar, small, Bool.eq_iff_iff]
    simp only [Bool.or_eq_true, Bool.and_eq_true, decide_eq_true_eq, beq_iff_eq]
    omega
  · rw [same]

/-- Trimming and making letters small can be done in either order. -/
theorem trimChars_map_toLower (cs : List Char) :
    trimChars (cs.map Char.toLower) = (trimChars cs).map Char.toLower := by
  have blank : isBlankChar ∘ Char.toLower = isBlankChar := funext isBlankChar_toLower
  rw [trimChars, dropEndWhile, List.dropWhile_map, ← List.map_reverse, List.dropWhile_map,
    ← List.map_reverse, blank]
  rfl

end Text

namespace Settings

open Text

/-! ## The fields that stay -/

/-- What is not zero stays. -/
theorem dropZero_dropZero (expiry : Option Nat) : dropZero (dropZero expiry) = dropZero expiry := by
  rcases expiry with _ | _ | n <;> rfl

/-- What is not blank stays. -/
theorem dropBlank_dropBlank (text : Option String) :
    dropBlank (dropBlank text) = dropBlank text := by
  cases text with
  | none => rfl
  | some t =>
      by_cases blank : isBlank t = true
      · rw [dropBlank, if_pos blank]
        rfl
      · rw [dropBlank, if_neg blank, dropBlank, if_neg blank]

/-- What is trimmed and in small letters stays. -/
theorem lowerAscii_trim_again (t : String) :
    lowerAscii (trim (lowerAscii (trim t))) = lowerAscii (trim t) := by
  rw [lowerAscii, lowerAscii, trim, trim, String.toList_ofList, String.toList_ofList,
    String.toList_ofList, trimChars_map_toLower, trimChars_trimChars, List.map_map]
  congr 2
  exact funext toLower_toLower

/-! ## Addresses -/

/-- An address frays when the slashes at its end cover a blank. -/
def Frays (url : String) : Prop :=
  ∃ front blank slashes, isBlankChar blank = true ∧ slashes ≠ [] ∧ (∀ c ∈ slashes, c = '/') ∧
    (trim url).toList = front ++ blank :: slashes

/-- What an address comes to without the blanks in front of it, and without the blanks and slashes
at its end. -/
structure IsBase (url base : List Char) : Prop where
  around : ∃ front back, Blanks front ∧ (∀ c ∈ back, isBlankChar c = true ∨ c = '/') ∧
    url = front ++ (base ++ back)
  first : ∀ c ∈ base.head?, isBlankChar c = false
  last : ∀ c ∈ base.getLast?, isBlankChar c = false ∧ c ≠ '/'

variable {url : String} {base cs : List Char} {c : Char}

/-- **An address has one base.** -/
theorem isBase_iff : IsBase cs base ↔
    base = dropEndWhile (fun c => isBlankChar c || c == '/') (cs.dropWhile isBlankChar) := by
  constructor
  · rintro ⟨⟨front, back, blanks, behind, rfl⟩, first, last⟩
    have goes : ∀ c ∈ back, (isBlankChar c || c == '/') = true := by
      simpa only [Bool.or_eq_true, beq_iff_eq] using behind
    rw [List.dropWhile_append_of_pos blanks]
    cases base with
    | nil =>
        rw [List.nil_append, dropEndWhile_eq, eq_comm, List.rdropWhile_eq_nil_iff]
        exact fun c member => goes c ((List.dropWhile_sublist _).subset member)
    | cons d base =>
        have kept : (d :: base ++ back).dropWhile isBlankChar = d :: base ++ back :=
          dropWhile_of_head? first
        rw [kept, dropEndWhile_append goes fun c member => ?_]
        simpa only [Bool.or_eq_false_iff, beq_eq_false_iff_ne] using last c member
  · rintro rfl
    refine ⟨⟨cs.takeWhile isBlankChar,
      (cs.dropWhile isBlankChar).rtakeWhile fun c => isBlankChar c || c == '/',
      ?_, ?_, ?_⟩, ?_, ?_⟩
    · exact fun c member => List.mem_takeWhile_imp member
    · intro c member
      simpa only [Bool.or_eq_true, beq_iff_eq] using List.mem_rtakeWhile_imp member
    · rw [dropEndWhile_eq, List.rdropWhile_append_rtakeWhile, List.takeWhile_append_dropWhile]
    · exact fun c first => head?_dropWhile cs c (head?_dropEndWhile _ _ c first)
    · intro c last
      simpa only [Bool.or_eq_false_iff, beq_eq_false_iff_ne] using getLast?_dropEndWhile _ _ c last

/-- An address is trimmed, and then loses the slashes at its end. -/
theorem toList_normalizeUrl (url : String) :
    (normalizeUrl url).toList = dropEndWhile (· == '/') (trim url).toList := String.toList_ofList

/-- An address in its form does not begin with a blank. -/
theorem normalizeUrl_head? (url : String) :
    ∀ c ∈ (normalizeUrl url).toList.head?, isBlankChar c = false := by
  intro c first
  rw [toList_normalizeUrl] at first
  exact (strips_trim url).first c (head?_dropEndWhile _ _ c first)

/-- An address in its form does not end in a slash. -/
theorem normalizeUrl_getLast? (url : String) :
    ∀ c ∈ (normalizeUrl url).toList.getLast?, c ≠ '/' := by
  intro c last
  rw [toList_normalizeUrl] at last
  simpa using getLast?_dropEndWhile _ _ c last

/-- The slashes that are taken off the end of an address. -/
theorem exists_slashes (url : String) : ∃ slashes : List Char, (∀ c ∈ slashes, c = '/') ∧
    (trim url).toList = (normalizeUrl url).toList ++ slashes := by
  refine ⟨(trim url).toList.rtakeWhile (· == '/'), fun c member => ?_, ?_⟩
  · simpa using List.mem_rtakeWhile_imp member
  · rw [toList_normalizeUrl, dropEndWhile_eq, List.rdropWhile_append_rtakeWhile]

/-- An address frays exactly if its normal form ends in a blank. -/
theorem frays_iff : Frays url ↔ ∃ c ∈ (normalizeUrl url).toList.getLast?, isBlankChar c = true := by
  constructor
  · rintro ⟨front, blank, slashes, isBlank, -, slash, ends⟩
    have covered : ∀ c ∈ (front ++ [blank]).getLast?, (c == '/') = false := by
      intro c last
      rw [List.getLast?_concat, Option.mem_some_iff] at last
      subst last
      refine beq_eq_false_iff_ne.mpr fun same => ?_
      subst same
      exact absurd isBlank (by decide)
    refine ⟨blank, ?_, isBlank⟩
    rw [toList_normalizeUrl, ends, List.append_cons,
      dropEndWhile_append (by simpa using slash) covered]
    exact List.getLast?_concat
  · rintro ⟨blank, last, isBlank⟩
    obtain ⟨front, ends⟩ := List.getLast?_eq_some_iff.mp last
    obtain ⟨slashes, slash, whole⟩ := exists_slashes url
    rw [ends, List.append_assoc, List.singleton_append] at whole
    refine ⟨front, blank, slashes, isBlank, fun none => ?_, slash, whole⟩
    have bare := (strips_trim url).last blank (by rw [whole, none, List.getLast?_concat]; rfl)
    rw [isBlank] at bare
    cases bare

/-- An address does not fray if its form does not end in a blank. -/
theorem not_frays_iff :
    ¬ Frays url ↔ ∀ c ∈ (normalizeUrl url).toList.getLast?, isBlankChar c = false := by
  simp only [frays_iff, not_exists, not_and, Bool.not_eq_true]

/-- Normalising an address again takes nothing away unless it frays. -/
theorem normalizeUrl_again_iff :
    normalizeUrl (normalizeUrl url) = normalizeUrl url ↔ ¬ Frays url := by
  have strips := strips_trim (normalizeUrl url)
  rw [not_frays_iff]
  constructor
  · -- what is left is all of the trimmed text, which therefore is the text itself
    intro same
    have starts : (normalizeUrl url).toList <+: (trim (normalizeUrl url)).toList := by
      have cut := List.rdropWhile_prefix (· == '/') (trim (normalizeUrl url)).toList
      rwa [← dropEndWhile_eq, ← toList_normalizeUrl, same] at cut
    rw [starts.eq_of_length_le strips.length_le]
    exact strips.last
  · intro last
    have stripped : Strips (normalizeUrl url).toList (normalizeUrl url).toList :=
      strips_self (normalizeUrl_head? url) last
    rw [← String.toList_inj, toList_normalizeUrl, trim_eq_iff.mpr stripped]
    exact dropEndWhile_of_getLast? fun c ends =>
      beq_eq_false_iff_ne.mpr (normalizeUrl_getLast? url c ends)

/-- The normal form of an address is its base unless it frays. -/
theorem isBase_normalizeUrl_iff :
    IsBase url.toList (normalizeUrl url).toList ↔ ¬ Frays url := by
  rw [not_frays_iff]
  refine ⟨fun isBase c last => (isBase.last c last).1, fun last => ?_⟩
  obtain ⟨⟨front, back, before, behind, around⟩, -, -⟩ := strips_trim url
  obtain ⟨slashes, slash, whole⟩ := exists_slashes url
  refine ⟨⟨front, slashes ++ back, before, fun c member => ?_, ?_⟩, normalizeUrl_head? url,
    fun c ends => ⟨last c ends, normalizeUrl_getLast? url c ends⟩⟩
  · rcases List.mem_append.mp member with inside | after
    · exact .inr (slash c inside)
    · exact .inl (behind c after)
  · rw [around, whole, List.append_assoc]

/-- Commands go to the path below the base of an address unless it frays. -/
theorem endpoint_iff (isBase : IsBase url.toList base) :
    normalizeUrl url ++ commandPath = String.ofList base ++ commandPath ↔ ¬ Frays url := by
  rw [String.append_left_inj, ← String.toList_inj, String.toList_ofList, ← isBase_normalizeUrl_iff]
  refine ⟨fun same => by rwa [same], fun own => ?_⟩
  exact (isBase_iff.mp own).trans (isBase_iff.mp isBase).symm

/-! ## Peers -/

/-- What a peer comes to when settings are normalised, and where commands to it go. -/
structure Tidied (before after : Peer) : Prop where
  nodeId : after.nodeId = before.nodeId
  first : ∀ c ∈ after.baseUrl.toList.head?, isBlankChar c = false
  noSlash : ∀ c ∈ after.baseUrl.toList.getLast?, c ≠ '/'
  noBlank : (∀ c ∈ after.baseUrl.toList.getLast?, isBlankChar c = false) ↔ ¬ Frays before.baseUrl
  again : normalizeUrl after.baseUrl = after.baseUrl ↔ ¬ Frays before.baseUrl
  endpoint : ∃ base, IsBase before.baseUrl.toList base ∧
    (after.baseUrl ++ commandPath = String.ofList base ++ commandPath ↔ ¬ Frays before.baseUrl)

/-- A peer with the form of its address is tidied. -/
theorem tidied_normalizeUrl (peer : Peer) :
    Tidied peer { peer with baseUrl := normalizeUrl peer.baseUrl } where
  nodeId := rfl
  first := normalizeUrl_head? peer.baseUrl
  noSlash := normalizeUrl_getLast? peer.baseUrl
  noBlank := not_frays_iff.symm
  again := normalizeUrl_again_iff
  endpoint := ⟨_, isBase_iff.mpr rfl, endpoint_iff (isBase_iff.mpr rfl)⟩

/-! ## Checking again -/

section Checks

/-- Settings with other addresses for the same peers. -/
def readdress (address : String → String) (s : Settings) : Settings :=
  { s with peers := s.peers.map fun peer => { peer with baseUrl := address peer.baseUrl } }

variable {address : String → String} {nodeId : String} {seen : List String} {peers : List Peer}
  {s : Settings}

/-- Peers with other addresses are accepted if these are addresses too. -/
theorem checkPeers_map_iff (accepted : checkPeers nodeId seen peers = .ok ()) :
    checkPeers nodeId seen (peers.map fun peer => { peer with baseUrl := address peer.baseUrl })
        = .ok () ↔
      ∀ peer ∈ peers, isWebAddress (address peer.baseUrl) = true := by
  induction peers generalizing seen with
  | nil => exact iff_of_true rfl fun _ member => (List.not_mem_nil member).elim
  | cons peer peers ih =>
      simp only [checkPeers, andThen_eq_ok_iff, refuse_eq_ok_iff] at accepted
      obtain ⟨named, other, new, -, rest⟩ := accepted
      simp only [List.map_cons, checkPeers, andThen_eq_ok_iff, refuse_eq_ok_iff, named, other, new,
        true_and, ih rest, List.forall_mem_cons, Bool.not_eq_false']

/-- When only addresses change, only they are at stake in the checks. -/
theorem check_readdress_iff (accepted : s.check = .ok ()) :
    (s.readdress address).check = .ok () ↔
      ∀ peer ∈ s.peers, isWebAddress (address peer.baseUrl) = true := by
  simp only [check, andThen_eq_ok_iff] at accepted ⊢
  obtain ⟨node, http, admin, backend, timeout, database, bytes, partitions, request, peers, space,
    threshold⟩ := accepted
  constructor
  · rintro ⟨-, -, -, -, -, -, -, -, -, again, -, -⟩
    exact (checkPeers_map_iff peers).mp again
  · intro web
    exact ⟨node, http, admin, backend, timeout, database, bytes, partitions, request,
      (checkPeers_map_iff peers).mpr web, space, threshold⟩

end Checks

/-! ## Settings -/

/-- Normalising again comes to normalising the addresses again. -/
theorem normalize_normalize (s : Settings) :
    s.normalize.normalize = s.normalize.readdress normalizeUrl := by
  simp only [normalize, readdress, lowerAscii_trim_again, dropZero_dropZero, dropBlank_dropBlank]

/-- Settings are in normal form for good exactly if none of their addresses frays. -/
theorem normalize_again_iff (s : Settings) :
    s.normalize.normalize = s.normalize ↔ ∀ peer ∈ s.peers, ¬ Frays peer.baseUrl := by
  rw [normalize_normalize]
  simp only [readdress, normalize, Settings.mk.injEq, true_and, and_true, List.map_map,
    List.map_inj_left, Function.comp_apply, Peer.mk.injEq, normalizeUrl_again_iff]

/-- Settings that are accepted are the normal form of what is written, and have been checked. -/
theorem parse_eq_ok_iff {path text : String} {settings : Settings} :
    parse path text = .ok settings ↔
      settings.check = .ok () ∧
        ∃ written, (Toml.read? text).bind ofFields? = some written ∧
          settings = written.normalize := by
  rw [parse]
  cases (Toml.read? text).bind ofFields? with
  | none => simp
  | some written =>
      cases checked : written.normalize.check with
      | ok =>
          simp only [Except.ok.injEq, Option.some.injEq, exists_eq_left', checked]
          exact ⟨fun same => ⟨same ▸ checked, same.symm⟩, fun same => same.2.symm⟩
      | error fault =>
          simp only [reduceCtorEq, Option.some.injEq, exists_eq_left', false_iff, not_and, checked]
          rintro accepted rfl
          rw [checked] at accepted
          cases accepted

/-- **Settings stay in normal form unless an address frays.** Normalising settings twice is
normalising them once exactly if no address in them has slashes at its end that cover a blank.
Settings that are accepted are the normal form of what is written. They have been checked; they stay
as they are when they are normalised again exactly if no address frays, and are accepted again
exactly if what is left of each address is one. The addresses in them begin with no blank and end in
no slash, and they end in no blank exactly if they do not fray; only then commands go to the path
below the base of the address that is written. -/
theorem normal_form_lasts_iff (settings : Settings) :
    (settings.normalize.normalize = settings.normalize ↔
      ∀ peer ∈ settings.peers, ¬ Frays peer.baseUrl) ∧
    ∀ path text, parse path text = .ok settings →
      settings.check = .ok () ∧
      ∃ written, (Toml.read? text).bind ofFields? = some written ∧ settings = written.normalize ∧
        (settings.normalize = settings ↔ ∀ peer ∈ written.peers, ¬ Frays peer.baseUrl) ∧
        (settings.normalize.check = .ok () ↔
          ∀ peer ∈ settings.peers, isWebAddress (normalizeUrl peer.baseUrl) = true) ∧
        List.Forall₂ Tidied written.peers settings.peers := by
  refine ⟨normalize_again_iff settings, fun path text accepted => ?_⟩
  obtain ⟨checked, written, read, rfl⟩ := parse_eq_ok_iff.mp accepted
  refine ⟨checked, written, read, rfl, normalize_again_iff written, ?_, ?_⟩
  · rw [normalize_normalize]
    exact check_readdress_iff checked
  · refine List.forall₂_map_right_iff.mpr (List.forall₂_same.mpr fun peer _ => ?_)
    exact tidied_normalizeUrl peer

/-! ### One peer -/

/-- A text with one peer, at an address. The backend is not written in its normal form. -/
def textWithPeer (url : String) : String :=
  "\n".intercalate ["[service]", "http_bind = \"127.0.0.1:1\"", "admin_bind = \"127.0.0.1:2\"",
    "log_level = \"info\"", "[node]", "node_id = \"a\"", "[storage]", "backend = \" Memory \"",
    "[[cluster.peers]]", "node_id = \"b\"", "base_url = \"" ++ url ++ "\""]

/-- Settings with one peer. -/
def settingsWithPeer (url : String) : Settings where
  httpBind := "127.0.0.1:1"
  adminBind := "127.0.0.1:2"
  logLevel := "info"
  nodeId := "a"
  backend := "memory"
  storageTimeout := 2000
  database := none
  cache := .unbounded
  requestTimeout := 5000
  peers := [⟨"b", url⟩]
  paramNamespace := "qrw"
  threshold := none

/-- What the text says. -/
def writtenWithPeer (url : String) : Settings :=
  { settingsWithPeer url with backend := " Memory " }

/-- Blanks and slashes around an address do no harm. -/
theorem slashedPeer_stays :
    parse "" (textWithPeer "  http://b:1// ") = .ok (settingsWithPeer "http://b:1") ∧
    (settingsWithPeer "http://b:1").normalize = settingsWithPeer "http://b:1" := by
  have parsed : parse "" (textWithPeer "  http://b:1// ") = .ok (settingsWithPeer "http://b:1") :=
    parse_eq_ok_iff.mpr
      ⟨rfl, writtenWithPeer "  http://b:1// ", by decide +kernel, by decide +kernel⟩
  refine ⟨parsed, ?_⟩
  obtain ⟨-, written, -, -, again, -, peers⟩ := (normal_form_lasts_iff _).2 _ _ parsed
  refine again.mpr fun peer member => ?_
  obtain ⟨before, rest, tidied, none, same⟩ := List.forall₂_cons_right_iff.mp peers
  rw [same, List.forall₂_nil_right_iff.mp none, List.mem_singleton] at member
  rw [member]
  have ends : "http://b:1".toList.getLast? = some '1' := by decide +kernel
  refine tidied.noBlank.mp fun c last => ?_
  cases ends.symm.trans last
  rfl

/-- A blank before the last slash is kept, and is gone when the settings are normalised again; then
what was accepted as an address may be none. -/
theorem blankBeforeSlash_changes :
    parse "" (textWithPeer "http://b /") = .ok (settingsWithPeer "http://b ") ∧
    (settingsWithPeer "http://b ").normalize ≠ settingsWithPeer "http://b " ∧
    parse "" (textWithPeer "http:// /") = .ok (settingsWithPeer "http:// ") ∧
    (settingsWithPeer "http:// ").normalize.check = .error (.peerUrl "b") := by
  refine ⟨parse_eq_ok_iff.mpr ?_, by decide +kernel, parse_eq_ok_iff.mpr ?_, rfl⟩
  · exact ⟨rfl, writtenWithPeer "http://b /", by decide +kernel, by decide +kernel⟩
  · exact ⟨rfl, writtenWithPeer "http:// /", by decide +kernel, by decide +kernel⟩

end Settings

end QueryRewriting
