import CaptureFlow.Flow.Pair
import CaptureFlow.Proofs.Address.Ipv6

/-!
# Names of connections

The text of a pair of endpoints tells the pair, because no address contains the
marks that stand around it. The pair with the server's side first is the same for
both directions of a connection and differs between connections.
-/

namespace CaptureFlow

/-- A text splits at the first mark in one way only. -/
theorem append_mark_inj {c : Char} {left left' right right' : List Char} (hleft : c ∉ left)
    (hleft' : c ∉ left') (h : left ++ c :: right = left' ++ c :: right') :
    left = left' ∧ right = right' := by
  have hstop : ∀ rest, Stops (fun d => d != c) (c :: rest) := fun rest => by simp
  have hrun : ∀ run : List Char, c ∉ run → ∀ d ∈ run, (d != c) = true := by
    intro run hc d hd
    simpa using fun heq : d = c => hc (heq ▸ hd)
  have htake := congrArg (List.takeWhile fun d => d != c) h
  have hdrop := congrArg (List.dropWhile fun d => d != c) h
  rw [(hstop right).takeWhile_append (hrun left hleft),
    (hstop right').takeWhile_append (hrun left' hleft')] at htake
  rw [(hstop right).dropWhile_append (hrun left hleft),
    (hstop right').dropWhile_append (hrun left' hleft')] at hdrop
  exact ⟨htake, List.tail_eq_of_cons_eq hdrop⟩

/-! ## Endpoints -/

namespace Endpoint

/-- Equal decimal ports are equal. -/
theorem port_inj {p q : UInt16} (h : Nat.toDigits 10 p.toNat = Nat.toDigits 10 q.toNat) : p = q :=
  UInt16.toNat_inj.mp (Numeral.toDigits_injective (by omega) (by omega) h)

/-- The text of an IPv4 endpoint, character by character. -/
theorem toList_text_v4 (address : Ipv4.Address) (port : UInt16) :
    (text ⟨.v4 address, port⟩).toList =
      address.text.toList ++ ':' :: Nat.toDigits 10 port.toNat := by
  simp [text, toString]

/-- The text of an IPv6 endpoint, character by character. -/
theorem toList_text_v6 (address : Ipv6.Address) (port : UInt16) :
    (text ⟨.v6 address, port⟩).toList =
      '[' :: (address.text.toList ++ ']' :: ':' :: Nat.toDigits 10 port.toNat) := by
  simp [text, toString]

/-- An IPv4 address contains neither a colon nor a bracket. -/
theorem notMem_text_v4 (address : Ipv4.Address) {c : Char} (hdigit : c.isDigit = false)
    (hdot : c ≠ '.') : c ∉ address.text.toList := by
  intro h
  rcases Ipv4.Address.mem_toList_text h with ⟨d, hd, rfl⟩ | rfl
  · rw [Nat.isDigit_digitChar, decide_eq_false_iff_not] at hdigit
    exact hdigit hd
  · exact hdot rfl

/-- An IPv6 address contains only the characters of addresses. -/
theorem notMem_text_v6 (address : Ipv6.Address) {c : Char} (h : Ipv6.isTextChar c = false) :
    c ∉ address.text.toList := by
  intro hmem
  rw [Ipv6.Address.isTextChar_of_mem_text hmem] at h
  cases h

/-- A decimal numeral contains digits only. -/
theorem notMem_toDigits (n : Nat) {c : Char} (h : c.isDigit = false) : c ∉ Nat.toDigits 10 n := by
  intro hmem
  rw [Numeral.isDigit_of_mem_toDigits hmem] at h
  cases h

/-- Only the text of an IPv6 endpoint contains brackets. -/
theorem bracket_notMem_text_v4 (address : Ipv4.Address) (port : UInt16) :
    '[' ∉ (text ⟨.v4 address, port⟩).toList := by
  rw [toList_text_v4, List.mem_append, List.mem_cons]
  rintro (h | h | h)
  · exact notMem_text_v4 address (by decide) (by decide) h
  · exact absurd h (by decide)
  · exact notMem_toDigits _ (by decide) h

/-- No endpoint contains the mark between the endpoints of a pair. -/
theorem mark_notMem_text (endpoint : Endpoint) : '<' ∉ endpoint.text.toList := by
  obtain ⟨address, port⟩ := endpoint
  cases address with
  | v4 address =>
    rw [toList_text_v4, List.mem_append, List.mem_cons]
    rintro (h | h | h)
    · exact notMem_text_v4 address (by decide) (by decide) h
    · exact absurd h (by decide)
    · exact notMem_toDigits _ (by decide) h
  | v6 address =>
    rw [toList_text_v6]
    simp only [List.mem_cons, List.mem_append]
    rintro (h | h | h | h | h)
    · exact absurd h (by decide)
    · exact notMem_text_v6 address (by decide) h
    · exact absurd h (by decide)
    · exact absurd h (by decide)
    · exact notMem_toDigits _ (by decide) h

/-- Different endpoints have different texts. -/
theorem text_injective : Function.Injective Endpoint.text := by
  intro left right h
  obtain ⟨address, port⟩ := left
  obtain ⟨address', port'⟩ := right
  have hlist := congrArg String.toList h
  have hbracket : ∀ (a : Ipv6.Address) p, '[' ∈ (text ⟨.v6 a, p⟩).toList := by
    intro a p
    rw [toList_text_v6]
    exact List.mem_cons_self
  cases address with
  | v4 address =>
    cases address' with
    | v4 address' =>
      rw [toList_text_v4, toList_text_v4] at hlist
      obtain ⟨haddress, hport⟩ := append_mark_inj
        (notMem_text_v4 address (by decide) (by decide))
        (notMem_text_v4 address' (by decide) (by decide)) hlist
      rw [Ipv4.Address.text_injective (String.toList_inj.mp haddress), port_inj hport]
    | v6 address' =>
      have hmem := hbracket address' port'
      rw [← hlist] at hmem
      exact absurd hmem (bracket_notMem_text_v4 address port)
  | v6 address =>
    cases address' with
    | v4 address' =>
      have hmem := hbracket address port
      rw [hlist] at hmem
      exact absurd hmem (bracket_notMem_text_v4 address' port')
    | v6 address' =>
      rw [toList_text_v6, toList_text_v6] at hlist
      obtain ⟨haddress, hport⟩ := append_mark_inj (notMem_text_v6 address (by decide))
        (notMem_text_v6 address' (by decide)) (List.tail_eq_of_cons_eq hlist)
      rw [Ipv6.Address.text_injective (String.toList_inj.mp haddress),
        port_inj (List.tail_eq_of_cons_eq hport)]

end Endpoint

/-! ## Addresses -/

namespace IpAddress

/-- Different addresses have different texts, whatever their versions. -/
theorem text_injective : Function.Injective IpAddress.text := by
  have hdiffer : ∀ (v4 : Ipv4.Address) (v6 : Ipv6.Address), v4.text ≠ v6.text := by
    intro v4 v6 h
    have hcolon := v6.colon_mem_text
    rw [← h] at hcolon
    exact Endpoint.notMem_text_v4 v4 (by decide) (by decide) hcolon
  intro left right h
  cases left with
  | v4 address =>
    cases right with
    | v4 address' => rw [Ipv4.Address.text_injective h]
    | v6 address' => exact absurd h (hdiffer address address')
  | v6 address =>
    cases right with
    | v4 address' => exact absurd h.symm (hdiffer address' address)
    | v6 address' => rw [Ipv6.Address.text_injective h]

/-- No address contains the mark between the addresses of a pair. -/
theorem mark_notMem_text (address : IpAddress) : '-' ∉ address.text.toList := by
  cases address with
  | v4 address => exact Endpoint.notMem_text_v4 address (by decide) (by decide)
  | v6 address => exact Endpoint.notMem_text_v6 address (by decide)

end IpAddress

/-! ## Pairs -/

/-- Different pairs of addresses have different texts. -/
theorem AddressPair.text_injective : Function.Injective AddressPair.text := by
  intro left right h
  have hlist : ∀ pair : AddressPair, pair.text.toList =
      pair.source.text.toList ++ '-' :: ('>' :: pair.destination.text.toList) := by
    intro pair
    simp [text, toString]
  have h := congrArg String.toList h
  rw [hlist left, hlist right] at h
  obtain ⟨hsource, hrest⟩ := append_mark_inj (IpAddress.mark_notMem_text _)
    (IpAddress.mark_notMem_text _) h
  have hsame : left.source = right.source :=
    IpAddress.text_injective (String.toList_inj.mp hsource)
  have hsame' : left.destination = right.destination :=
    IpAddress.text_injective (String.toList_inj.mp (List.tail_eq_of_cons_eq hrest))
  obtain ⟨source, destination⟩ := left
  cases hsame
  cases hsame'
  rfl

namespace EndpointPair

/-- Different pairs have different texts. -/
theorem text_injective : Function.Injective EndpointPair.text := by
  intro left right h
  have hlist : ∀ pair : EndpointPair, pair.text.toList =
      pair.source.text.toList ++ '<' :: ('-' :: '>' :: pair.destination.text.toList) := by
    intro pair
    simp [text, toString]
  have h := congrArg String.toList h
  rw [hlist left, hlist right] at h
  obtain ⟨hsource, hrest⟩ := append_mark_inj (Endpoint.mark_notMem_text _)
    (Endpoint.mark_notMem_text _) h
  have hdestination := List.tail_eq_of_cons_eq (List.tail_eq_of_cons_eq hrest)
  have hsame : left.source = right.source :=
    Endpoint.text_injective (String.toList_inj.mp hsource)
  have hsame' : left.destination = right.destination :=
    Endpoint.text_injective (String.toList_inj.mp hdestination)
  obtain ⟨source, destination⟩ := left
  cases hsame
  cases hsame'
  rfl

/-- The pair with the server first is the pair or its reverse, and only its first
side uses the port. -/
theorem serverFirst_eq_ok_iff {port : UInt16} {pair turned : EndpointPair} :
    serverFirst port pair = .ok turned ↔
      turned.source.port = port ∧ turned.destination.port ≠ port ∧
        (pair = turned ∨ pair = turned.reversed) := by
  obtain ⟨source, destination⟩ := pair
  obtain ⟨source', destination'⟩ := turned
  unfold serverFirst
  dsimp only
  constructor
  · intro h
    split at h
    · split at h
      · cases h
      · cases h
        exact ⟨by assumption, by assumption, .inl rfl⟩
    · split at h
      · cases h
        exact ⟨by assumption, by assumption, .inr rfl⟩
      · cases h
  · rintro ⟨hsource, hdestination, h | h⟩
    · cases h
      rw [if_pos hsource, if_neg hdestination]
    · cases h
      rw [if_neg hdestination, if_pos hsource]
      rfl

/-- Both directions of a connection have the same pair with the server first, and
no other connection has it. -/
theorem sameConnection_iff {port : UInt16} {left right turned turned' : EndpointPair}
    (hleft : serverFirst port left = .ok turned) (hright : serverFirst port right = .ok turned') :
    left.sameConnection right = true ↔ turned = turned' := by
  obtain ⟨hsource, hdestination, hpair⟩ := serverFirst_eq_ok_iff.mp hleft
  obtain ⟨hsource', hdestination', hpair'⟩ := serverFirst_eq_ok_iff.mp hright
  have hsame : left.sameConnection right = true ↔ left = right ∨ right = left.reversed := by
    rw [sameConnection, Bool.or_eq_true, decide_eq_true_eq, isReverseOf_iff]
  have hswap : turned ≠ turned'.reversed := by
    rintro rfl
    exact hdestination hsource'
  rw [hsame]
  constructor
  · rintro (rfl | rfl)
    · rcases hpair with rfl | rfl <;> rcases hpair' with h | h
      · exact h
      · exact absurd h hswap
      · exact absurd h.symm fun h => hswap (by rw [h, reversed_reversed])
      · exact congrArg reversed h
    · rcases hpair with rfl | rfl <;> rcases hpair' with h | h
      · exact absurd h.symm fun h => hswap (by rw [h, reversed_reversed])
      · exact congrArg reversed h
      · exact h
      · exact absurd h hswap
  · rintro rfl
    rcases hpair with rfl | rfl <;> rcases hpair' with rfl | rfl
    · exact .inl rfl
    · exact .inr rfl
    · exact .inr (reversed_reversed _).symm
    · exact .inl rfl

end EndpointPair

end CaptureFlow
