import LogCollector.Proofs.Fallible
import LogCollector.Proofs.Text.Padding
import LogCollector.Session.Terms

/-!
# Blanks in a settings document

Blanks around the values of a settings document are to make no difference: the document is to be
read as the one without them (`ReadAlike`). Texts, flags and numbers are trimmed when they are
read, and so they are read alike unless there is nothing but blanks, which are trimmed too late to
count as nothing (`text?_trimmed`). The mode is not trimmed at all. A document is read alike
exactly when neither of the two occurs, or when one of its numbers cannot be read either way
(`blanks_make_no_difference_iff`).
-/

namespace LogCollector

open Text (trim allBlank)

/-- The words for other modes than that of the firewall. -/
def Mode.otherWords : List String := ["audit", "ips", "vpn", "non_audit"]

namespace ConnectionParams

/-- How the size of the buffer is read. -/
abbrev readSize : List Char → Option Int :=
  Numeral.integer? (-9223372036854775808) 9223372036854775807

/-- How a port is read. -/
abbrev readPort : List Char → Option Nat := Numeral.natural? 65535

end ConnectionParams

namespace Status.Document

/-- The document with the blanks around every value left out. -/
def trimmed (d : Document) : Document :=
  ⟨d.declarations.map fun (key, value) => (key, .ofList (trim value.toList))⟩

theorem get?_trimmed (d : Document) (key : String) :
    d.trimmed.get? key = (d.get? key).map fun value => .ofList (trim value.toList) := by
  obtain ⟨declarations⟩ := d
  induction declarations with
  | nil => rfl
  | cons declaration rest ih =>
    obtain ⟨name, value⟩ := declaration
    simp only [get?, trimmed, List.map_cons, List.lookup_cons]
    cases key == name with
    | true => rfl
    | false => exact ih

/-- A key is declared to be blanks only. -/
def BlankAt (d : Document) (key : String) : Prop :=
  ∃ value, d.get? key = some value ∧ value ≠ "" ∧ allBlank value.toList = true

/-- A key is declared to be something else than a number. -/
def NoNumberAt {α : Type} (d : Document) (key : String) (read : List Char → Option α) : Prop :=
  ∃ value, d.get? key = some value ∧ allBlank value.toList = false ∧ read (trim value.toList) = none

/-- One of the numbers cannot be read, whether there are blanks around it or not. -/
def BadNumber (d : Document) : Prop :=
  d.NoNumberAt "conn_buf_size" ConnectionParams.readSize ∨
    d.NoNumberAt "lea_server_port" ConnectionParams.readPort ∨
    d.NoNumberAt "lea_server_auth_port" ConnectionParams.readPort

/-- The mode is declared to be a word for other modes than that of the firewall, with blanks around
it. -/
def PadsMode (d : Document) : Prop :=
  ∃ value, d.get? "mode" = some value ∧ trim value.toList ≠ value.toList ∧
    String.ofList (trim value.toList) ∈ Mode.otherWords

end Status.Document

open Status (Document)

theorem Mode.ofDocument_eq_firewall_iff {word : String} :
    ofDocument word = .firewall ↔ word ∉ otherWords := by
  unfold ofDocument otherWords
  split <;> simp_all

theorem Mode.trim_of_mem_otherWords {word : String} (h : word ∈ otherWords) :
    trim word.toList = word.toList := by
  revert word
  decide

/-- A word for a mode stands for it only without blanks around it. -/
theorem Mode.ofDocument_trim_eq_iff {value : String} :
    ofDocument (.ofList (trim value.toList)) = ofDocument value ↔
      ¬ (trim value.toList ≠ value.toList ∧ String.ofList (trim value.toList) ∈ otherWords) := by
  by_cases htrim : trim value.toList = value.toList
  · rw [htrim, String.ofList_toList]
    simp
  · have hvalue : ofDocument value = .firewall :=
      ofDocument_eq_firewall_iff.2 fun h => htrim (trim_of_mem_otherWords h)
    rw [hvalue, ofDocument_eq_firewall_iff]
    simp [htrim]

namespace ConnectionParams

variable {d : Document} {key : String} {α : Type} {read : List Char → Option α}

/-! ### Values -/

theorem text?_eq (d : Document) (key : String) : text? d key =
    ((d.get? key).filter (· ≠ "")).map fun value => .ofList (trim value.toList) := rfl

/-- **Without the blanks** a value of blanks only is none; all others are the same. -/
theorem text?_trimmed (d : Document) (key : String) :
    text? d.trimmed key = (text? d key).filter (· ≠ "") := by
  rw [text?_eq, text?_eq, Document.get?_trimmed]
  cases d.get? key with
  | none => rfl
  | some value =>
    by_cases hvalue : value = ""
    · subst hvalue
      rfl
    · by_cases hblank : String.ofList (trim value.toList) = ""
      · simp [Option.filter_some, hvalue, hblank]
      · simp [Option.filter_some, hvalue, hblank]

/-- An empty text is read where there are blanks only. -/
theorem text?_eq_empty_iff : text? d key = some "" ↔ d.BlankAt key := by
  rw [text?_eq, Document.BlankAt]
  cases d.get? key with
  | none => simp
  | some value => simp [← Text.trim_eq_nil_iff, String.ofList_eq_empty_iff]

/-- A text that is read alike. -/
theorem text?_trimmed_eq_iff : text? d.trimmed key = text? d key ↔ ¬ d.BlankAt key := by
  rw [← text?_eq_empty_iff, text?_trimmed]
  cases text? d key with
  | none => simp
  | some text => by_cases h : text = "" <;> simp [h]

/-- Whether a value is a certain word is read alike. -/
theorem text?_trimmed_eq_some_iff {word : String} (hword : word ≠ "") :
    text? d.trimmed key = some word ↔ text? d key = some word := by
  rw [text?_trimmed, Option.filter_eq_some_iff]
  exact and_iff_left_of_imp fun _ => by simpa using hword

theorem flag_trimmed (d : Document) (key : String) : flag d.trimmed key = flag d key :=
  decide_eq_decide.2 (text?_trimmed_eq_some_iff (by decide))

/-! ### Numbers -/

/-- The number in a text that has been read; nothing is no number. -/
def numberIn? (read : List Char → Option α) : Option String → Option (Option α)
  | none => some none
  | some text => (read text.toList).map some

theorem number?_eq_ok_iff {x : Option α} :
    number? d key read = .ok x ↔ numberIn? read (text? d key) = some x := by
  rw [number?, text?, numberIn?.eq_def]
  cases d.nonEmpty? key with
  | none => simp [eq_comm]
  | some value =>
    simp only [Option.map_some, String.toList_ofList]
    cases read (trim value.toList) with
    | none => simp
    | some n => simp [eq_comm]

/-- A number is read alike, unless it is blanks. -/
theorem numberIn?_trimmed (h : ¬ d.BlankAt key) :
    numberIn? read (text? d.trimmed key) = numberIn? read (text? d key) := by
  rw [text?_trimmed_eq_iff.2 h]

/-- Blanks are no number. -/
theorem numberIn?_of_blankAt (hread : read [] = none) (h : d.BlankAt key) :
    numberIn? read (text? d key) = none ∧ numberIn? read (text? d.trimmed key) = some none := by
  have htext := text?_eq_empty_iff.2 h
  rw [text?_trimmed, htext]
  exact ⟨by simp [numberIn?, hread], rfl⟩

/-- What is no number is none without the blanks around it either. -/
theorem numberIn?_trimmed_eq_none_iff (d : Document) (key : String)
    (read : List Char → Option α) :
    numberIn? read (text? d.trimmed key) = none ↔ d.NoNumberAt key read := by
  rw [text?_trimmed, text?_eq, Document.NoNumberAt]
  cases d.get? key with
  | none => simp [numberIn?]
  | some value =>
    cases hblank : allBlank value.toList with
    | true =>
      have htrim := Text.trim_eq_nil_iff.2 hblank
      have hnil : allBlank [] = true := rfl
      by_cases hvalue : value = ""
      · simp [Option.filter_some, numberIn?, hvalue, hnil]
      · simp [Option.filter_some, numberIn?, htrim, hvalue, hblank]
    | false =>
      have htrim : trim value.toList ≠ [] := fun h => by
        rw [Text.trim_eq_nil_iff.1 h] at hblank
        cases hblank
      have hvalue : value ≠ "" := by
        rintro rfl
        cases hblank
      simp [Option.filter_some, numberIn?, htrim, hvalue, hblank]

/-- What is no number without the blanks around it is none with them. -/
theorem numberIn?_of_noNumberAt (hread : read [] = none) (h : d.NoNumberAt key read) :
    numberIn? read (text? d key) = none := by
  by_cases hblank : d.BlankAt key
  · exact (numberIn?_of_blankAt hread hblank).1
  · rwa [← numberIn?_trimmed hblank, numberIn?_trimmed_eq_none_iff]

/-! ### Documents -/

/-- The parameters in a document with the numbers that have been read. -/
def withNumbers (d : Document) (size : Option Int) (port authPort : Option Nat) :
    ConnectionParams where
  remote := true
  mode := some (.ofDocument ((d.get? "mode").getD ""))
  resolve := match text? d "no_resolve" with
    | some "1" => some false
    | some "0" => some true
    | _ => none
  online := flag d "online_mode"
  noDelay := flag d "no_nagle"
  bufferSize := (size.filter (0 < ·)).map Int.toNat |>.filter (· < UInt32.size)
  serverIp := text? d "lea_server_ip"
  serverPort := port
  authPort := authPort
  authType := text? d "lea_server_auth_type"
  sicName := text? d "opsec_sic_name"
  certificate := text? d "opsec_sslca_file"
  serverSicName := text? d "opsec_entity_sic_name"

/-- A document is read when its numbers are. -/
theorem ofDocument_eq_ok_iff {params : ConnectionParams} : ofDocument d = .ok params ↔
    ∃ size port authPort, numberIn? readSize (text? d "conn_buf_size") = some size ∧
      numberIn? readPort (text? d "lea_server_port") = some port ∧
      numberIn? readPort (text? d "lea_server_auth_port") = some authPort ∧
      withNumbers d size port authPort = params := by
  simp only [ofDocument, bind_eq_ok_iff, number?_eq_ok_iff, exists_and_left]
  constructor
  · rintro ⟨size, hsize, port, hport, authPort, hauth, h⟩
    exact ⟨size, hsize, port, hport, authPort, hauth, Except.ok.inj h⟩
  · rintro ⟨size, hsize, port, hport, authPort, hauth, rfl⟩
    exact ⟨size, hsize, port, hport, authPort, hauth, rfl⟩

theorem resolve_trimmed (d : Document) (size : Option Int) (port authPort : Option Nat) :
    (withNumbers d.trimmed size port authPort).resolve =
      (withNumbers d size port authPort).resolve := by
  simp only [withNumbers, text?_trimmed]
  cases text? d "no_resolve" with
  | none => rfl
  | some text =>
    by_cases h : text = ""
    · subst h
      rfl
    · simp [Option.filter_some, h]

/-- The keys whose values are texts. -/
def textKeys : List String :=
  ["lea_server_ip", "lea_server_auth_type", "opsec_sic_name", "opsec_sslca_file",
    "opsec_entity_sic_name"]

/-- The keys whose values are numbers. -/
def numberKeys : List String := ["conn_buf_size", "lea_server_port", "lea_server_auth_port"]

/-- The mode is read alike unless it stands between blanks. -/
theorem mode_trimmed_eq_iff : Mode.ofDocument ((d.trimmed.get? "mode").getD "") =
    Mode.ofDocument ((d.get? "mode").getD "") ↔ ¬ d.PadsMode := by
  rw [Document.get?_trimmed, Document.PadsMode]
  cases d.get? "mode" with
  | none => simp
  | some value =>
    rw [Option.map_some, Option.getD_some, Option.getD_some, Mode.ofDocument_trim_eq_iff]
    simp

/-- With the same numbers the blanks matter for texts and for the mode. -/
theorem withNumbers_trimmed_eq_iff {size : Option Int} {port authPort : Option Nat} :
    withNumbers d.trimmed size port authPort = withNumbers d size port authPort ↔
      ¬ d.PadsMode ∧ ∀ key ∈ textKeys, ¬ d.BlankAt key := by
  have hresolve := resolve_trimmed d size port authPort
  simp only [withNumbers] at hresolve
  simp only [withNumbers, mk.injEq, Option.some.injEq, mode_trimmed_eq_iff, hresolve, flag_trimmed,
    text?_trimmed_eq_iff, textKeys, List.forall_mem_cons, true_and]
  simp

/-! ### Reading -/

/-- Two documents are read alike: both fail, or both give the same parameters, and these are
accepted from both or from neither. -/
structure ReadAlike (d d' : Document) : Prop where
  /-- The parameters, if there are any, are the same. -/
  params : (∃ f f', ofDocument d = .error f ∧ ofDocument d' = .error f') ∨
    ∃ params, ofDocument d = .ok params ∧ ofDocument d' = .ok params
  /-- Nothing is missing from one of them only. -/
  accepted : ∀ legacy params params', ofDocument d = .ok params → ofDocument d' = .ok params' →
    (params.check legacy = .ok () ↔ params'.check legacy = .ok ())

/-- Documents are read alike when they have the same result. -/
theorem readAlike_iff {d d' : Document} :
    ReadAlike d d' ↔ ∀ params, ofDocument d = .ok params ↔ ofDocument d' = .ok params := by
  constructor
  · rintro ⟨⟨f, f', hf, hf'⟩ | ⟨params, hparams, hparams'⟩, -⟩ other
    · simp [hf, hf']
    · rw [hparams, hparams']
  · intro h
    refine ⟨?_, fun legacy params params' hparams hparams' => ?_⟩
    · cases hd : ofDocument d with
      | ok params => exact .inr ⟨params, rfl, (h params).1 hd⟩
      | error f =>
        cases hd' : ofDocument d' with
        | ok params =>
          rw [(h params).2 hd'] at hd
          cases hd
        | error f' => exact .inl ⟨f, f', rfl, rfl⟩
    · obtain rfl := Except.ok.inj (((h params).1 hparams).symm.trans hparams')
      exact Iff.rfl

/-- In a document that can be read there is no bad number. -/
theorem not_badNumber_of_ok {params : ConnectionParams} (h : ofDocument d = .ok params) :
    ¬ d.BadNumber := by
  obtain ⟨size, port, authPort, hsize, hport, hauth, -⟩ := ofDocument_eq_ok_iff.1 h
  have hnumber : ∀ {β : Type} {read : List Char → Option β} {key : String} {x : Option β},
      read [] = none → numberIn? read (text? d key) = some x → ¬ d.NoNumberAt key read := by
    intro β read key x hread hx hkey
    rw [numberIn?_of_noNumberAt hread hkey] at hx
    cases hx
  simp only [Document.BadNumber, not_or]
  exact ⟨hnumber rfl hsize, hnumber rfl hport, hnumber rfl hauth⟩

/-- Without the blanks a document can be read when it has no bad number. -/
theorem exists_numbers_trimmed_iff : ¬ d.BadNumber ↔
    ∃ size port authPort, numberIn? readSize (text? d.trimmed "conn_buf_size") = some size ∧
      numberIn? readPort (text? d.trimmed "lea_server_port") = some port ∧
      numberIn? readPort (text? d.trimmed "lea_server_auth_port") = some authPort := by
  simp only [Document.BadNumber, not_or, ← numberIn?_trimmed_eq_none_iff, ← ne_eq,
    Option.ne_none_iff_exists', exists_and_left, exists_and_right]

/-- **When blanks make no difference**: they do in a document whose numbers can be read if they hide
the mode or are all there is of a value. -/
theorem blanks_make_no_difference_iff (d : Document) : ReadAlike d d.trimmed ↔
    d.BadNumber ∨ (¬ d.PadsMode ∧ ∀ key ∈ numberKeys ++ textKeys, ¬ d.BlankAt key) := by
  rw [readAlike_iff, List.forall_mem_append]
  constructor
  · intro h
    refine or_iff_not_imp_left.2 fun hnumbers => ?_
    obtain ⟨size, port, authPort, hsize, hport, hauth⟩ := exists_numbers_trimmed_iff.1 hnumbers
    have hparams := (h _).2 (ofDocument_eq_ok_iff.2 ⟨_, _, _, hsize, hport, hauth, rfl⟩)
    obtain ⟨size', port', authPort', hsize', hport', hauth', hsame⟩ :=
      ofDocument_eq_ok_iff.1 hparams
    -- The document itself can be read too, so that none of its numbers is blank.
    have hvisible : ∀ {β : Type} {read : List Char → Option β} {key : String} {x : Option β},
        read [] = none → numberIn? read (text? d key) = some x → ¬ d.BlankAt key := by
      intro β read key x hread hx hblank
      rw [(numberIn?_of_blankAt hread hblank).1] at hx
      cases hx
    have hsize₀ := hvisible rfl hsize'
    have hport₀ := hvisible rfl hport'
    have hauth₀ := hvisible rfl hauth'
    obtain rfl := Option.some.inj (hsize.symm.trans ((numberIn?_trimmed hsize₀).trans hsize'))
    obtain rfl := Option.some.inj (hport.symm.trans ((numberIn?_trimmed hport₀).trans hport'))
    obtain rfl := Option.some.inj (hauth.symm.trans ((numberIn?_trimmed hauth₀).trans hauth'))
    obtain ⟨hmode, htexts⟩ := withNumbers_trimmed_eq_iff.1 hsame.symm
    exact ⟨hmode, by simp [numberKeys, hsize₀, hport₀, hauth₀], htexts⟩
  · rintro (hbad | ⟨hmode, hnumbers, htexts⟩) params
    · refine iff_of_false (fun h => not_badNumber_of_ok h hbad) fun h => ?_
      obtain ⟨size, port, authPort, hsize, hport, hauth, -⟩ := ofDocument_eq_ok_iff.1 h
      exact exists_numbers_trimmed_iff.2 ⟨size, port, authPort, hsize, hport, hauth⟩ hbad
    · simp only [numberKeys, List.forall_mem_cons] at hnumbers
      obtain ⟨hsize, hport, hauth, -⟩ := hnumbers
      simp only [ofDocument_eq_ok_iff, numberIn?_trimmed hsize, numberIn?_trimmed hport,
        numberIn?_trimmed hauth, withNumbers_trimmed_eq_iff.2 ⟨hmode, htexts⟩]

/-- A document in which the mode stands between blanks and the address of the server is blank. -/
def padded : Document :=
  ⟨[("mode", " audit "), ("lea_server_ip", "  "), ("lea_server_port", "18184")]⟩

/-- **A padded mode is taken for another one**, with other records, and a blank address for an
address. -/
theorem padded_mode_and_blank_address : ∃ params params',
    ofDocument padded = .ok params ∧ ofDocument padded.trimmed = .ok params' ∧
      (∀ plan, SessionTerms.kindAndMode plan params = (.traffic, .firewall) ∧
        SessionTerms.kindAndMode plan params' = (.audit, .audit)) ∧
      (∀ legacy, params.check legacy = .ok () ∧
        params'.check legacy = .error (.missingParameter "lea_server_ip")) ∧
      ¬ ReadAlike padded padded.trimmed := by
  have hpadded : ofDocument padded = .ok (withNumbers padded none (some 18184) none) := by
    decide +kernel
  have htrimmed : ofDocument padded.trimmed =
      .ok (withNumbers padded.trimmed none (some 18184) none) := by decide +kernel
  have hchecks : ∀ legacy, (withNumbers padded none (some 18184) none).check legacy = .ok () ∧
      (withNumbers padded.trimmed none (some 18184) none).check legacy =
        .error (.missingParameter "lea_server_ip") := by decide +kernel
  refine ⟨_, _, hpadded, htrimmed, fun plan => ⟨rfl, rfl⟩, hchecks, fun h => ?_⟩
  have haccepted := (h.accepted false _ _ hpadded htrimmed).1 (hchecks false).1
  rw [(hchecks false).2] at haccepted
  cases haccepted

end ConnectionParams

end LogCollector
