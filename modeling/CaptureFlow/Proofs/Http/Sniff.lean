import CaptureFlow.Http.Sniff
import CaptureFlow.Proofs.Text.Numeral
import CaptureFlow.Proofs.Text.Utf8
import Mathlib.Data.List.Basic

/-!
# First lines

A payload is taken for a message just if it starts with one of two kinds of lines: a request line,
which may have empty lines in front and whose target has to be text, or a status line as far as
the digits of its status. Whatever follows changes nothing about that, so a payload that is cut
behind the line is taken for the same message as the whole payload. Only what stands behind the
line may come out differently, which is the reason of a response and the fields.
-/

namespace CaptureFlow.Http

/-! ## The same line -/

/-- Two heads have the same first line, but for the reason of a response. -/
structure Header.SameLine (header other : Header) : Prop where
  /-- Both are requests, or both are responses. -/
  isResponse_eq : header.isResponse = other.isResponse
  /-- They have the same status. -/
  status_eq : header.status = other.status
  /-- They have the same method. -/
  method_eq : header.method = other.method
  /-- They have the same target. -/
  uri_eq : header.uri = other.uri
  /-- They have the same version. -/
  version_eq : header.version = other.version

namespace Header.SameLine

variable {first second third : Header}

/-- A head has its own first line. -/
theorem refl (header : Header) : header.SameLine header :=
  ⟨rfl, rfl, rfl, rfl, rfl⟩

/-- The same first line either way. -/
theorem symm (h : first.SameLine second) : second.SameLine first :=
  ⟨h.isResponse_eq.symm, h.status_eq.symm, h.method_eq.symm, h.uri_eq.symm, h.version_eq.symm⟩

/-- The same first line as a third head. -/
theorem trans (h : first.SameLine second) (hnext : second.SameLine third) :
    first.SameLine third :=
  ⟨h.isResponse_eq.trans hnext.isResponse_eq, h.status_eq.trans hnext.status_eq,
    h.method_eq.trans hnext.method_eq, h.uri_eq.trans hnext.uri_eq,
    h.version_eq.trans hnext.version_eq⟩

/-- A field changes nothing of the first line. -/
theorem withField (header : Header) (field : Field) :
    (header.withField field).SameLine header := by
  unfold Header.withField
  cases Utf8.decode? field.value with
  | none => exact refl header
  | some value =>
    dsimp only
    split
    · exact ⟨rfl, rfl, rfl, rfl, rfl⟩
    · split
      · exact ⟨rfl, rfl, rfl, rfl, rfl⟩
      · split
        · exact ⟨rfl, rfl, rfl, rfl, rfl⟩
        · exact refl header

/-- The fields of a message change nothing of its first line. -/
theorem withFields (header : Header) (behindLine : Option Bytes) :
    (header.withFields behindLine).SameLine header := by
  have hfold : ∀ (found : List Field) (header : Header),
      (found.foldl Header.withField header).SameLine header := by
    intro found
    induction found with
    | nil => exact refl
    | cons field found ih =>
      intro header
      exact (ih (header.withField field)).trans (withField header field)
  unfold Header.withFields
  split
  · exact hfold _ _
  · exact refl header

end Header.SameLine

/-! ## Lines -/

/-- Some octets are a run of a class. -/
structure IsRun (isMember : UInt8 → Bool) (run : Bytes) : Prop where
  /-- There are some. -/
  ne_nil : run ≠ []
  /-- All of them belong to the class. -/
  all : ∀ b ∈ run, isMember b = true

/-- Some octets are empty lines. -/
inductive IsEmptyLines : Bytes → Prop
  /-- There are none. -/
  | nil : IsEmptyLines []
  /-- A newline, -/
  | newline {lines : Bytes} (hlines : IsEmptyLines lines) : IsEmptyLines (0x0a :: lines)
  /-- or a carriage return and a newline in front of others. -/
  | carriageReturn {lines : Bytes} (hlines : IsEmptyLines lines) :
      IsEmptyLines (0x0d :: 0x0a :: lines)

/-- The octets in front of a minor version, `HTTP/1.` -/
def versionMark : Bytes := responseMark ++ [0x31, 0x2e]

/-- Some octets are the protocol with a minor version. -/
inductive IsProtocol : (version : UInt8) → Bytes → Prop
  /-- The protocol is `HTTP/1.0`. -/
  | zero : IsProtocol 0 (versionMark ++ [0x30])
  /-- The protocol is `HTTP/1.1`. -/
  | one : IsProtocol 1 (versionMark ++ [0x31])

/-- Some octets are a request line up to its end, with any empty lines in front. -/
inductive IsRequestLine (method target : Bytes) (version : UInt8) : Bytes → Prop
  /-- The method, the target and the protocol with a space between each two. -/
  | intro {lines protocol : Bytes} (hlines : IsEmptyLines lines) (hmethod : IsRun isToken method)
      (htarget : IsRun isUri target) (hprotocol : IsProtocol version protocol) :
      IsRequestLine method target version
        (lines ++ (method ++ 0x20 :: (target ++ 0x20 :: protocol)))

/-- The octet of a decimal digit. -/
def digitOctet (digit : Nat) : UInt8 :=
  UInt8.ofNat (0x30 + digit)

/-- Some octets are a status line up to the end of the status. -/
inductive IsStatusLine : (status : UInt16) → (version : UInt8) → Bytes → Prop
  /-- The protocol, a space and three digits. -/
  | intro {version : UInt8} {protocol : Bytes} {a b c : Nat}
      (hprotocol : IsProtocol version protocol) (ha : a < 10) (hb : b < 10) (hc : c < 10) :
      IsStatusLine (UInt16.ofNat (100 * a + 10 * b + c)) version
        (protocol ++ [0x20, digitOctet a, digitOctet b, digitOctet c])

/-! ## Pieces of a line -/

section Pieces

variable {bytes rest : Bytes}

/-- A run is split off if it is one and ends there. -/
theorem splitRun_eq_some_iff {isMember : UInt8 → Bool} {run : Bytes} :
    splitRun isMember bytes = some (run, rest) ↔
      IsRun isMember run ∧ Stops isMember rest ∧ bytes = run ++ rest := by
  simp only [splitRun]
  constructor
  · intro h
    split at h
    · cases h
    next hrun =>
      simp only [Option.some.injEq, Prod.mk.injEq] at h
      obtain ⟨rfl, rfl⟩ := h
      refine ⟨⟨fun hnil => hrun (List.isEmpty_iff.mpr hnil), ?_⟩, ?_, ?_⟩
      · exact List.all_eq_true.mp List.all_takeWhile
      · intro b hb
        have hhead := List.head?_dropWhile_not isMember bytes
        rw [Option.mem_def.mp hb] at hhead
        exact hhead
      · exact List.takeWhile_append_dropWhile.symm
  · rintro ⟨hrun, hrest, rfl⟩
    rw [hrest.takeWhile_append hrun.all, hrest.dropWhile_append hrun.all,
      if_neg fun hnil => hrun.ne_nil (List.isEmpty_iff.mp hnil)]

/-- An octet is dropped if it stands in front. -/
theorem dropOctet_eq_some_iff {octet : UInt8} :
    dropOctet octet bytes = some rest ↔ bytes = octet :: rest := by
  cases bytes with
  | nil => simp [dropOctet]
  | cons b bytes => simp [dropOctet]

/-- The protocol is split off if it stands in front. -/
theorem splitVersion_eq_some_iff {version : UInt8} :
    splitVersion bytes = some (version, rest) ↔
      ∃ protocol, IsProtocol version protocol ∧ bytes = protocol ++ rest := by
  constructor
  · intro h
    unfold splitVersion at h
    split at h
    next minor behind =>
      split at h
      next hminor =>
        cases h
        exact ⟨_, .zero, by rw [hminor]; rfl⟩
      · split at h
        next hminor =>
          cases h
          exact ⟨_, .one, by rw [hminor]; rfl⟩
        · cases h
    · cases h
  · rintro ⟨protocol, hprotocol, rfl⟩
    cases hprotocol with
    | zero => rfl
    | one => rfl

/-- An octet has the value of a digit if it is that of the digit. -/
theorem digitValue?_eq_some_iff {b : UInt8} {digit : Nat} :
    digitValue? b = some digit ↔ digit < 10 ∧ b = digitOctet digit := by
  unfold digitValue? digitOctet
  constructor
  · intro h
    split at h
    next hb =>
      cases h
      obtain ⟨hlow, hhigh⟩ := hb
      rw [UInt8.le_iff_toNat_le] at hlow hhigh
      have hleast : (0x30 : UInt8).toNat = 0x30 := rfl
      have hgreatest : (0x39 : UInt8).toNat = 0x39 := rfl
      refine ⟨by omega, ?_⟩
      rw [show 0x30 + (b.toNat - 0x30) = b.toNat by omega, UInt8.ofNat_toNat]
    · cases h
  · rintro ⟨hdigit, rfl⟩
    have hvalue : (UInt8.ofNat (0x30 + digit)).toNat = 0x30 + digit :=
      UInt8.toNat_ofNat_of_lt' (by simp only [UInt8.size]; omega)
    have hleast : (0x30 : UInt8).toNat = 0x30 := rfl
    have hgreatest : (0x39 : UInt8).toNat = 0x39 := rfl
    have hb : 0x30 ≤ UInt8.ofNat (0x30 + digit) ∧ UInt8.ofNat (0x30 + digit) ≤ 0x39 := by
      rw [UInt8.le_iff_toNat_le, UInt8.le_iff_toNat_le]
      omega
    rw [if_pos hb, hvalue, Nat.add_sub_cancel_left]

/-- A status is split off if it stands in front. -/
theorem splitStatus_eq_some_iff {status : UInt16} :
    splitStatus bytes = some (status, rest) ↔ ∃ a b c : Nat, (a < 10 ∧ b < 10 ∧ c < 10) ∧
      status = UInt16.ofNat (100 * a + 10 * b + c) ∧
        bytes = digitOctet a :: digitOctet b :: digitOctet c :: rest := by
  constructor
  · intro h
    unfold splitStatus at h
    split at h
    · simp only [Option.bind_eq_bind, Option.bind_eq_some_iff, Option.pure_def, Option.some.injEq,
        Prod.mk.injEq, digitValue?_eq_some_iff] at h
      obtain ⟨x, ⟨hx, rfl⟩, y, ⟨hy, rfl⟩, z, ⟨hz, rfl⟩, rfl, rfl⟩ := h
      exact ⟨x, y, z, ⟨hx, hy, hz⟩, rfl, rfl⟩
    · cases h
  · rintro ⟨a, b, c, ⟨ha, hb, hc⟩, rfl, rfl⟩
    simp only [splitStatus, digitValue?_eq_some_iff.mpr ⟨ha, rfl⟩,
      digitValue?_eq_some_iff.mpr ⟨hb, rfl⟩, digitValue?_eq_some_iff.mpr ⟨hc, rfl⟩,
      Option.bind_eq_bind, Option.bind_some, Option.pure_def]

/-- What is passed over are empty lines. -/
theorem exists_skipEmptyLines (bytes : Bytes) :
    ∃ lines, IsEmptyLines lines ∧ bytes = lines ++ skipEmptyLines bytes := by
  fun_induction skipEmptyLines bytes with
  | case1 bytes ih =>
    obtain ⟨lines, hlines, hbytes⟩ := ih
    exact ⟨0x0d :: 0x0a :: lines, .carriageReturn hlines,
      by rw [List.cons_append, List.cons_append, ← hbytes]⟩
  | case2 bytes ih =>
    obtain ⟨lines, hlines, hbytes⟩ := ih
    exact ⟨0x0a :: lines, .newline hlines, by rw [List.cons_append, ← hbytes]⟩
  | case3 bytes => exact ⟨[], .nil, rfl⟩

/-- Empty lines are passed over up to a token. -/
theorem IsEmptyLines.skipEmptyLines_append {lines : Bytes} (h : IsEmptyLines lines) {b : UInt8}
    (hb : isToken b = true) : skipEmptyLines (lines ++ b :: rest) = b :: rest := by
  induction h with
  | nil =>
    rw [List.nil_append]
    unfold skipEmptyLines
    split
    next heq =>
      cases heq
      cases hb
    next heq =>
      cases heq
      cases hb
    · rfl
  | newline _ ih => exact ih
  | carriageReturn _ ih => exact ih

end Pieces

/-! ## Texts -/

/-- The octets of a token are below 128. -/
theorem lt_of_isToken {b : UInt8} (h : isToken b = true) : b < 0x80 := by
  simp only [isToken, isAlphanumeric, Bool.or_eq_true, Bool.and_eq_true, decide_eq_true_eq,
    List.contains_eq_mem] at h
  have hmarks : ([0x21, 0x23, 0x24, 0x25, 0x26, 0x27, 0x2a, 0x2b, 0x2d, 0x2e, 0x5e, 0x5f, 0x60, 0x7c,
      0x7e] : Bytes).all (· < 0x80) := rfl
  rcases h with ((⟨-, hdigit⟩ | ⟨-, hupper⟩) | ⟨-, hlower⟩) | hmark
  · exact UInt8.lt_of_le_of_lt hdigit (by decide)
  · exact UInt8.lt_of_le_of_lt hupper (by decide)
  · exact UInt8.lt_of_le_of_lt hlower (by decide)
  · exact of_decide_eq_true (List.all_eq_true.mp hmarks b hmark)

/-- The text of octets below 128 has these octets. -/
theorem encode_asciiText {bytes : Bytes} (h : ∀ b ∈ bytes, b < 0x80) :
    Utf8.encode (asciiText bytes) = bytes := by
  have hoctet : ∀ b ∈ bytes, String.utf8EncodeChar (Char.ofNat b.toNat) = [b] := by
    intro b hb
    have hlt : b.toNat < 0x80 := UInt8.lt_iff_toNat_lt.mp (h b hb)
    have hvalid : b.toNat.isValidChar := .inl (by omega)
    have hchar : (Char.ofNat b.toNat).toNat = b.toNat := by
      rw [Char.ofNat, dif_pos hvalid]
      rfl
    rw [Utf8.utf8EncodeChar_of_lt (by rwa [hchar]), hchar, UInt8.ofNat_toNat]
  rw [asciiText, Utf8.encode_ofList, List.flatMap_map, List.flatMap_congr hoctet]
  exact List.flatMap_singleton' bytes

/-- The text of the octets of a token is the token. -/
theorem asciiText_encode {text : String} (h : IsRun isToken (Utf8.encode text)) :
    asciiText (Utf8.encode text) = text :=
  Utf8.encode_inj.mp (encode_asciiText fun b hb => lt_of_isToken (h.all b hb))

/-! ## Messages -/

section Messages

variable {payload line : Bytes} {header : Header}

/-- A request starts with a request line, whose pieces it has. -/
theorem exists_of_sniffRequest (h : sniffRequest payload = some header) :
    ∃ method uri version line, IsRequestLine (Utf8.encode method) (Utf8.encode uri) version line ∧
      line <+: payload ∧ header.SameLine (.request method uri version) := by
  simp only [sniffRequest, Option.bind_eq_bind, Option.bind_eq_some_iff, Option.pure_def,
    Option.some.injEq, Prod.exists, splitRun_eq_some_iff, dropOctet_eq_some_iff,
    splitVersion_eq_some_iff, Utf8.decode?_eq_some_iff] at h
  obtain ⟨method, _, ⟨hmethod, -, hpayload⟩, _, rfl, _, _, ⟨htarget, -, rfl⟩, _, rfl, uri, rfl,
    version, behind, ⟨protocol, hprotocol, rfl⟩, rfl⟩ := h
  obtain ⟨lines, hlines, hskip⟩ := exists_skipEmptyLines payload
  have htext : Utf8.encode (asciiText method) = method :=
    encode_asciiText fun b hb => lt_of_isToken (hmethod.all b hb)
  refine ⟨asciiText method, uri, version, _, .intro hlines (htext.symm ▸ hmethod) htarget hprotocol,
    ⟨behind, ?_⟩, .withFields _ _⟩
  rw [hskip, hpayload, htext]
  simp only [List.append_assoc, List.cons_append]

/-- A request line is read up to the protocol, the fields from what follows. -/
theorem IsRequestLine.sniffRequest_append {method uri : String} {version : UInt8}
    (h : IsRequestLine (Utf8.encode method) (Utf8.encode uri) version line) (behind : Bytes) :
    sniffRequest (line ++ behind) =
      some ((Header.request method uri version).withFields (dropLineEnd behind)) := by
  cases h with
  | @intro lines protocol hlines hmethod htarget hprotocol =>
    -- the first octet of the method ends the empty lines, and a space ends either run
    have hskip : skipEmptyLines ((lines ++ (Utf8.encode method ++ 0x20 :: (Utf8.encode uri ++
        0x20 :: protocol))) ++ behind) =
        Utf8.encode method ++ 0x20 :: (Utf8.encode uri ++ 0x20 :: (protocol ++ behind)) := by
      obtain ⟨b, others, hstart⟩ := List.exists_cons_of_ne_nil hmethod.ne_nil
      have hb := hmethod.all b (hstart ▸ List.mem_cons_self)
      rw [hstart]
      simp only [List.append_assoc, List.cons_append]
      exact hlines.skipEmptyLines_append hb
    have hspace : ∀ behind, Stops isToken (0x20 :: behind) := fun _ => Stops.cons_iff.mpr rfl
    have hspace' : ∀ behind, Stops isUri (0x20 :: behind) := fun _ => Stops.cons_iff.mpr rfl
    simp only [sniffRequest, hskip, splitRun_eq_some_iff.mpr ⟨hmethod, hspace _, rfl⟩,
      dropOctet_eq_some_iff.mpr rfl, splitRun_eq_some_iff.mpr ⟨htarget, hspace' _, rfl⟩,
      Utf8.decode?_encode, splitVersion_eq_some_iff.mpr ⟨protocol, hprotocol, rfl⟩,
      asciiText_encode hmethod, Option.bind_eq_bind, Option.bind_some, Option.pure_def]

/-- What starts like a response is no request. -/
theorem sniffRequest_of_responseMark (h : responseMark <+: payload) :
    sniffRequest payload = none := by
  obtain ⟨behind, rfl⟩ := h
  rfl

/-- A response starts with a status line, whose pieces it has. -/
theorem exists_of_sniffResponse (h : sniffResponse payload = some header) :
    ∃ status version line, IsStatusLine status version line ∧ line <+: payload ∧
      header.SameLine (.response status none version) := by
  simp only [sniffResponse, Option.bind_eq_bind, Option.bind_eq_some_iff, Option.pure_def,
    Option.some.injEq, Prod.exists, dropOctet_eq_some_iff, splitVersion_eq_some_iff,
    splitStatus_eq_some_iff] at h
  obtain ⟨version, _, ⟨protocol, hprotocol, rfl⟩, _, rfl, _, behind,
    ⟨a, b, c, ⟨ha, hb, hc⟩, rfl, rfl⟩, rfl⟩ := h
  refine ⟨_, version, _, .intro hprotocol ha hb hc, ⟨behind, ?_⟩, ?_⟩
  · simp only [List.append_assoc, List.cons_append, List.nil_append]
  · exact (Header.SameLine.withFields _ _).trans ⟨rfl, rfl, rfl, rfl, rfl⟩

/-- A status line is read up to the status, the reason and the fields from what follows. -/
theorem IsStatusLine.sniffResponse_append {status : UInt16} {version : UInt8}
    (h : IsStatusLine status version line) (behind : Bytes) :
    sniffResponse (line ++ behind) =
      some ((Header.response status (reasonLine behind).1 version).withFields
        (reasonLine behind).2) := by
  cases h with
  | @intro _ protocol a b c hprotocol ha hb hc =>
    simp only [sniffResponse, List.append_assoc, List.cons_append, List.nil_append,
      splitVersion_eq_some_iff.mpr ⟨protocol, hprotocol, rfl⟩, dropOctet_eq_some_iff.mpr rfl,
      splitStatus_eq_some_iff.mpr ⟨a, b, c, ⟨ha, hb, hc⟩, rfl, rfl⟩, Option.bind_eq_bind,
      Option.bind_some, Option.pure_def]

/-- A status line starts like a response. -/
theorem IsStatusLine.responseMark_isPrefix {status : UInt16} {version : UInt8}
    (h : IsStatusLine status version line) : responseMark <+: line := by
  cases h with
  | intro hprotocol =>
    cases hprotocol with
    | zero => exact List.prefix_append _ _
    | one => exact List.prefix_append _ _

/-- A message starts with a line of its kind, whose pieces it has. -/
theorem exists_of_sniff (h : sniff payload = some header) :
    (∃ status version line, IsStatusLine status version line ∧ line <+: payload ∧
        header.SameLine (.response status none version)) ∨
      ∃ method uri version line,
        IsRequestLine (Utf8.encode method) (Utf8.encode uri) version line ∧ line <+: payload ∧
          header.SameLine (.request method uri version) := by
  unfold sniff at h
  split at h
  · exact .inl (exists_of_sniffResponse h)
  · exact .inr (exists_of_sniffRequest h)

/-- A response is read from its status line, and its reason and fields from what follows. -/
theorem IsStatusLine.sniff_append {status : UInt16} {version : UInt8}
    (h : IsStatusLine status version line) (behind : Bytes) :
    sniff (line ++ behind) =
      some ((Header.response status (reasonLine behind).1 version).withFields
        (reasonLine behind).2) := by
  have hmark := h.responseMark_isPrefix.trans (List.prefix_append line behind)
  rw [sniff, if_pos (List.isPrefixOf_iff_prefix.mpr hmark), h.sniffResponse_append]

/-- A request is read from its line, and its fields from what follows. -/
theorem IsRequestLine.sniff_append {method uri : String} {version : UInt8}
    (h : IsRequestLine (Utf8.encode method) (Utf8.encode uri) version line) (behind : Bytes) :
    sniff (line ++ behind) =
      some ((Header.request method uri version).withFields (dropLineEnd behind)) := by
  have hrequest := h.sniffRequest_append behind
  have hmark : ¬responseMark.isPrefixOf (line ++ behind) := by
    intro hmark
    rw [sniffRequest_of_responseMark (List.isPrefixOf_iff_prefix.mp hmark)] at hrequest
    cases hrequest
  rw [sniff, if_neg hmark, hrequest]

/-- A payload that starts with a status line is taken for that response only. -/
theorem IsStatusLine.exists_sniff {status : UInt16} {version : UInt8}
    (h : IsStatusLine status version line) (hstarts : line <+: payload) :
    ∃ header, sniff payload = some header ∧ header.SameLine (.response status none version) := by
  obtain ⟨behind, rfl⟩ := hstarts
  exact ⟨_, h.sniff_append behind,
    (Header.SameLine.withFields _ _).trans ⟨rfl, rfl, rfl, rfl, rfl⟩⟩

/-- A payload that starts with a request line is taken for that request only. -/
theorem IsRequestLine.exists_sniff {method uri : String} {version : UInt8}
    (h : IsRequestLine (Utf8.encode method) (Utf8.encode uri) version line)
    (hstarts : line <+: payload) :
    ∃ header, sniff payload = some header ∧ header.SameLine (.request method uri version) := by
  obtain ⟨behind, rfl⟩ := hstarts
  exact ⟨_, h.sniff_append behind, .withFields _ _⟩

/-- A message is taken for the same message but for its reason and fields in every payload
that starts like it. -/
theorem sniff_of_isPrefix {front : Bytes} (hfront : front <+: payload)
    (h : sniff front = some header) :
    ∃ other, sniff payload = some other ∧ header.SameLine other := by
  rcases exists_of_sniff h with
    ⟨status, version, line, hline, hstarts, hsame⟩ |
      ⟨method, uri, version, line, hline, hstarts, hsame⟩
  · obtain ⟨other, hother, hkept⟩ := hline.exists_sniff (hstarts.trans hfront)
    exact ⟨other, hother, hsame.trans hkept.symm⟩
  · obtain ⟨other, hother, hkept⟩ := hline.exists_sniff (hstarts.trans hfront)
    exact ⟨other, hother, hsame.trans hkept.symm⟩

end Messages

/-- What a payload is taken for is told by the line it starts with, whatever follows. -/
structure SniffedByLine (payload : Bytes) : Prop where
  /-- It is a response if it starts with a status line, whose pieces it has. -/
  response_iff : ∀ (status : UInt16) (version : UInt8),
    (∃ header, sniff payload = some header ∧ header.SameLine (.response status none version)) ↔
      ∃ line, IsStatusLine status version line ∧ line <+: payload
  /-- It is a request if it starts with a request line whose target is text, with its pieces. -/
  request_iff : ∀ (method uri : String) (version : UInt8),
    (∃ header, sniff payload = some header ∧ header.SameLine (.request method uri version)) ↔
      ∃ line, IsRequestLine (Utf8.encode method) (Utf8.encode uri) version line ∧ line <+: payload
  /-- Otherwise it is nothing. -/
  eq_none : (∀ status version line, IsStatusLine status version line → ¬line <+: payload) →
    (∀ method uri version line,
      IsRequestLine (Utf8.encode method) (Utf8.encode uri) version line → ¬line <+: payload) →
    sniff payload = none

/-- Every payload is taken for what its first line tells. -/
theorem sniffedByLine (payload : Bytes) : SniffedByLine payload where
  response_iff status version := by
    constructor
    · rintro ⟨header, hheader, hline⟩
      rcases exists_of_sniff hheader with
        ⟨status', version', line, hstatus, hstarts, hsame⟩ | ⟨_, _, _, _, -, -, hsame⟩
      · have hpieces := hline.symm.trans hsame
        obtain rfl : status = status' := hpieces.status_eq
        obtain rfl : version = version' := hpieces.version_eq
        exact ⟨line, hstatus, hstarts⟩
      · cases (hline.symm.trans hsame).isResponse_eq
    · rintro ⟨line, hstatus, hstarts⟩
      exact hstatus.exists_sniff hstarts
  request_iff method uri version := by
    constructor
    · rintro ⟨header, hheader, hline⟩
      rcases exists_of_sniff hheader with
        ⟨_, _, _, -, -, hsame⟩ | ⟨method', uri', version', line, hrequest, hstarts, hsame⟩
      · cases (hline.symm.trans hsame).isResponse_eq
      · have hpieces := hline.symm.trans hsame
        obtain rfl : method = method' := Option.some.inj hpieces.method_eq
        obtain rfl : uri = uri' := hpieces.uri_eq
        obtain rfl : version = version' := hpieces.version_eq
        exact ⟨line, hrequest, hstarts⟩
    · rintro ⟨line, hrequest, hstarts⟩
      exact hrequest.exists_sniff hstarts
  eq_none hstatus hrequest := by
    cases hheader : sniff payload with
    | none => rfl
    | some header =>
      rcases exists_of_sniff hheader with
        ⟨status, version, line, hline, hstarts, -⟩ | ⟨method, uri, version, line, hline, hstarts, -⟩
      · exact absurd hstarts (hstatus status version line hline)
      · exact absurd hstarts (hrequest method uri version line hline)

/-- A request with a target that is no text. -/
def strayRequest : Bytes :=
  [0x47, 0x45, 0x54, 0x20, 0x2f, 0xff, 0xfe, 0x20] ++ versionMark ++ [0x31, 0x0d, 0x0a, 0x0d, 0x0a]

/-- A payload may start with a request line and be taken for nothing, as its target is no text. -/
theorem strayRequest_refused :
    (∃ method target version line, IsRequestLine method target version line ∧
      line <+: strayRequest) ∧ sniff strayRequest = none :=
  ⟨⟨[0x47, 0x45, 0x54], [0x2f, 0xff, 0xfe], 1, _,
    .intro .nil ⟨by decide, List.all_eq_true.mp rfl⟩ ⟨by decide, List.all_eq_true.mp rfl⟩ .one,
    [0x0d, 0x0a, 0x0d, 0x0a], rfl⟩, by decide +kernel⟩

end CaptureFlow.Http
