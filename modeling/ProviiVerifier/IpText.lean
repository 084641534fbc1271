/-
  The texts of IP addresses: the reader of the standard library, and what a URL's host is written
  as.

  An IPv4 address is written in four decimal numbers. Of an IPv6 address the groups are written in
  hexadecimal, and some groups of zeros may be left out (`Ipv6Text`).

  Proved: each of these texts is read as the address that it is written from
  (`parseIpAddr_ipv4Text`, `parseIpAddr_ipv6Text`).
-/
import ProviiVerifier.Encoding.Numerals
import ProviiVerifier.SsrfAddresses

namespace ProviiVerifier

namespace IpText

open SsrfProtection (Ipv4Addr Ipv6Addr IpAddr)

/-! ## The reader -/

/-- `Parser::read_given_char`. -/
def readGiven (c : Char) : List Char → Option (List Char)
  | [] => none
  | d :: rest => if d = c then some rest else none

/-- The separator that `Parser::read_separator` takes before every item but the first. -/
def readSeparator (sep : Char) (i : Nat) (cs : List Char) : Option (List Char) :=
  if i = 0 then some cs else readGiven sep cs

/-- A number of an IPv4 address. -/
def readOctet (i : Nat) (cs : List Char) : Option (UInt8 × List Char) :=
  (readSeparator '.' i cs).bind fun cs =>
    (Numerals.read 10 3 255 false cs).map fun r => (UInt8.ofNat r.1, r.2)

/-- `Parser::read_ipv4_addr`. -/
def readIpv4Addr (cs : List Char) : Option (Ipv4Addr × List Char) := do
  let (a, cs) ← readOctet 0 cs
  let (b, cs) ← readOctet 1 cs
  let (c, cs) ← readOctet 2 cs
  let (d, cs) ← readOctet 3 cs
  some (⟨a, b, c, d⟩, cs)

/-- A group of an IPv6 address. -/
def readGroup (i : Nat) (cs : List Char) : Option (UInt16 × List Char) :=
  (readSeparator ':' i cs).bind fun cs =>
    (Numerals.read 16 4 65535 true cs).map fun r => (UInt16.ofNat r.1, r.2)

/-- `read_groups`: at most `left` more groups after `i` of them, with a flag for an IPv4 address at
the end, which takes two. -/
def readGroups : Nat → Nat → List Char → List UInt16 × Bool × List Char
  | 0, _, cs => ([], false, cs)
  | left + 1, i, cs =>
    match if 1 ≤ left then (readSeparator ':' i cs).bind readIpv4Addr else none with
    | some (ip, rest) =>
      ([.ofNat (ip.a.toNat * 256 + ip.b.toNat), .ofNat (ip.c.toNat * 256 + ip.d.toNat)], true, rest)
    | none =>
      match readGroup i cs with
      | some (group, rest) =>
        let more := readGroups left (i + 1) rest
        (group :: more.1, more.2)
      | none => ([], false, cs)

/-- The segments of an address. -/
def segments (ip : Ipv6Addr) : List UInt16 :=
  [ip.s0, ip.s1, ip.s2, ip.s3, ip.s4, ip.s5, ip.s6, ip.s7]

/-- The address of eight segments. -/
def ofSegments (l : List UInt16) : Ipv6Addr :=
  ⟨l.getD 0 0, l.getD 1 0, l.getD 2 0, l.getD 3 0, l.getD 4 0, l.getD 5 0, l.getD 6 0, l.getD 7 0⟩

/-- `Parser::read_ipv6_addr`. -/
def readIpv6Addr (cs : List Char) : Option (Ipv6Addr × List Char) :=
  let front := readGroups 8 0 cs
  if front.1.length = 8 then some (ofSegments front.1, front.2.2)
  else if front.2.1 then none
  else
    ((readGiven ':' front.2.2).bind (readGiven ':')).map fun rest =>
      let back := readGroups (8 - (front.1.length + 1)) 0 rest
      let zeros := List.replicate (8 - front.1.length - back.1.length) 0
      (ofSegments (front.1 ++ zeros ++ back.1), back.2.2)

/-- `str::parse` for an `IpAddr`. -/
def parseIpAddr (s : String) : Option IpAddr :=
  let read := ((readIpv4Addr s.toList).map fun r => (IpAddr.v4 r.1, r.2)).or
    ((readIpv6Addr s.toList).map fun r => (IpAddr.v6 r.1, r.2))
  read.bind fun r => if r.2 = [] then some r.1 else none

/-! ## Texts of addresses -/

/-- Four numbers with dots between them. -/
def ipv4Text (ip : Ipv4Addr) : List Char :=
  Nat.toDigits 10 ip.a.toNat ++ '.' :: (Nat.toDigits 10 ip.b.toNat ++ '.' ::
    (Nat.toDigits 10 ip.c.toNat ++ '.' :: Nat.toDigits 10 ip.d.toNat))

/-- What stands before item `i`. -/
def start (sep : Char) (i : Nat) : List Char := if i = 0 then [] else [sep]

def groupText (group : UInt16) : List Char := Nat.toDigits 16 group.toNat

/-- Groups with a colon before each, but before the first of an address. -/
def groupsText : Nat → List UInt16 → List Char
  | _, [] => []
  | i, group :: groups => start ':' i ++ (groupText group ++ groupsText (i + 1) groups)

/-- All groups, or those before and after some zeros. -/
def Ipv6Text (ip : Ipv6Addr) (text : List Char) : Prop :=
  text = groupsText 0 (segments ip) ∨ ∃ front zeros back,
    segments ip = front ++ (List.replicate (zeros + 1) 0 ++ back) ∧
      text = groupsText 0 front ++ ':' :: ':' :: groupsText 0 back

/-! ## IPv4 -/

theorem readSeparator_start (sep : Char) (i : Nat) (cs : List Char) :
    readSeparator sep i (start sep i ++ cs) = some cs := by
  unfold readSeparator start
  by_cases hi : i = 0
  · simp [hi]
  · simp [hi, readGiven]

theorem readOctet_text (i : Nat) (octet : UInt8) {rest : List Char}
    (hrest : ∀ c, rest.head? = some c → Numerals.isDigit 10 c = false) :
    readOctet i (start '.' i ++ (Nat.toDigits 10 octet.toNat ++ rest)) = some (octet, rest) := by
  have hlt := octet.toNat_lt
  have hread : Numerals.read 10 3 255 false (Nat.toDigits 10 octet.toNat ++ rest) =
      some (octet.toNat, rest) :=
    Numerals.read_toDigits (by decide) (by decide) (by decide) (by omega) (by omega) hrest
  unfold readOctet
  rw [readSeparator_start, Option.bind_some, hread, Option.map_some, UInt8.ofNat_toNat]

theorem readIpv4Addr_text (ip : Ipv4Addr) : readIpv4Addr (ipv4Text ip) = some (ip, []) := by
  have hdot : ∀ (l : List Char) c, ('.' :: l).head? = some c → Numerals.isDigit 10 c = false := by
    intro l c hc
    rw [← Option.some.inj hc]
    decide
  have hnil : ∀ c, ([] : List Char).head? = some c → Numerals.isDigit 10 c = false := by
    intro c hc
    cases hc
  have hfirst : ∀ octet rest, readOctet 0 (Nat.toDigits 10 octet.toNat ++ '.' :: rest) =
      some (octet, '.' :: rest) := fun octet rest => readOctet_text 0 octet (hdot rest)
  have hnext : ∀ i, i ≠ 0 → ∀ octet rest, (∀ c, rest.head? = some c →
      Numerals.isDigit 10 c = false) →
      readOctet i ('.' :: (Nat.toDigits 10 octet.toNat ++ rest)) = some (octet, rest) := by
    intro i hi octet rest hrest
    have h := readOctet_text i octet hrest
    rw [start, if_neg hi] at h
    exact h
  have hlast := hnext 3 (by decide) ip.d [] hnil
  rw [List.append_nil] at hlast
  unfold readIpv4Addr ipv4Text
  simp only [Option.bind_eq_bind, hfirst, Option.bind_some]
  rw [hnext 1 (by decide) _ _ (hdot _)]
  simp only [Option.bind_some]
  rw [hnext 2 (by decide) _ _ (hdot _)]
  simp only [Option.bind_some]
  rw [hlast]
  rfl

/-- Without a dot there is no IPv4 address. -/
theorem readIpv4Addr_eq_none {cs : List Char} (h : '.' ∉ cs) : readIpv4Addr cs = none := by
  unfold readIpv4Addr
  cases hfirst : readOctet 0 cs with
  | none => rfl
  | some r =>
    obtain ⟨a, rest⟩ := r
    have hsuffix : rest <:+ cs := by
      unfold readOctet readSeparator at hfirst
      rw [if_pos rfl, Option.bind_some] at hfirst
      obtain ⟨⟨n, rest'⟩, hread, heq⟩ := Option.map_eq_some_iff.mp hfirst
      injection heq with _ heq
      rw [← heq]
      exact Numerals.suffix_of_read hread
    have hgiven : readGiven '.' rest = none := by
      cases rest with
      | nil => rfl
      | cons c rest =>
        refine if_neg ?_
        rintro rfl
        exact h (hsuffix.mem List.mem_cons_self)
    simp [readOctet, readSeparator, hgiven]

/-! ## IPv6 -/

/-- Where no further group stands: at the end, or at two colons. -/
def Stops (rest : List Char) : Prop := rest = [] ∨ ∃ more, rest = ':' :: ':' :: more

theorem colon_head (l : List Char) :
    ∀ c, (':' :: l).head? = some c → Numerals.isDigit 16 c = false := by
  intro c hc
  rw [← Option.some.inj hc]
  decide

theorem Stops.head {rest : List Char} (h : Stops rest) :
    ∀ c, rest.head? = some c → Numerals.isDigit 16 c = false := by
  rcases h with rfl | ⟨more, rfl⟩
  · intro c hc
    cases hc
  · exact colon_head _

theorem Stops.readGroup {rest : List Char} (h : Stops rest) (i : Nat) :
    readGroup i rest = none := by
  unfold IpText.readGroup readSeparator
  rcases h with rfl | ⟨more, rfl⟩
  · by_cases hi : i = 0
    · rw [if_pos hi, Option.bind_some, Numerals.read_eq_none (by simp)]
      rfl
    · rw [if_neg hi]
      rfl
  · have hread : ∀ l : List Char, Numerals.read 16 4 65535 true (':' :: l) = none := fun l =>
      Numerals.read_eq_none (colon_head l)
    by_cases hi : i = 0
    · rw [if_pos hi, Option.bind_some, hread]
      rfl
    · rw [if_neg hi]
      simp [readGiven, hread]

theorem readGroup_text (i : Nat) {group : UInt16} {rest : List Char}
    (hrest : ∀ c, rest.head? = some c → Numerals.isDigit 16 c = false) :
    readGroup i (start ':' i ++ (groupText group ++ rest)) = some (group, rest) := by
  have hlt := group.toNat_lt
  have hread : Numerals.read 16 4 65535 true (groupText group ++ rest) =
      some (group.toNat, rest) :=
    Numerals.read_toDigits (by decide) (by decide) (by decide) (by omega) (by omega) hrest
  unfold readGroup
  rw [readSeparator_start, Option.bind_some, hread, Option.map_some, UInt16.ofNat_toNat]

theorem groupsText_append_head {groups : List UInt16} {i : Nat} {rest : List Char}
    (h : Stops rest) :
    ∀ c, (groupsText (i + 1) groups ++ rest).head? = some c → Numerals.isDigit 16 c = false := by
  cases groups with
  | nil => exact h.head
  | cons group groups => exact colon_head _

/-- A text without a dot has no IPv4 address as its next item. -/
theorem readSeparator_readIpv4Addr {cs : List Char} (h : '.' ∉ cs) (i : Nat) :
    (readSeparator ':' i cs).bind readIpv4Addr = none := by
  unfold readSeparator
  split
  · exact readIpv4Addr_eq_none h
  · cases cs with
    | nil => rfl
    | cons c cs =>
      rw [readGiven]
      split
      · exact readIpv4Addr_eq_none fun hmem => h (List.mem_cons_of_mem _ hmem)
      · rfl

/-- Groups are written in digits and colons. -/
theorem not_mem_groupsText {c : Char} (hcolon : c ≠ ':') (hdigit : Numerals.isDigit 16 c = false)
    (i : Nat) (groups : List UInt16) : c ∉ groupsText i groups := by
  induction groups generalizing i with
  | nil => exact List.not_mem_nil
  | cons group groups ih =>
    have hstart : c ∉ start ':' i := by
      unfold start
      split
      · exact List.not_mem_nil
      · exact fun hmem => hcolon (List.mem_singleton.mp hmem)
    have hgroup : c ∉ groupText group := by
      intro hmem
      rw [Numerals.isDigit_of_mem (by decide) (by decide) _ hmem] at hdigit
      cases hdigit
    rw [groupsText, List.mem_append, List.mem_append]
    exact not_or.mpr ⟨hstart, not_or.mpr ⟨hgroup, ih _⟩⟩

theorem Ipv6Text.not_mem {ip : Ipv6Addr} {text : List Char} (h : Ipv6Text ip text) {c : Char}
    (hcolon : c ≠ ':') (hdigit : Numerals.isDigit 16 c = false) : c ∉ text := by
  rcases h with rfl | ⟨front, zeros, back, -, rfl⟩
  · exact not_mem_groupsText hcolon hdigit _ _
  · simp only [List.mem_append, List.mem_cons, hcolon, false_or]
    exact not_or.mpr ⟨not_mem_groupsText hcolon hdigit _ _, not_mem_groupsText hcolon hdigit _ _⟩

theorem not_mem_ipv4Text {c : Char} (hdot : c ≠ '.') (hdigit : Numerals.isDigit 10 c = false)
    (ip : Ipv4Addr) : c ∉ ipv4Text ip := by
  have hoctet : ∀ n : Nat, c ∉ Nat.toDigits 10 n := by
    intro n hmem
    rw [Numerals.isDigit_of_mem (by decide) (by decide) _ hmem] at hdigit
    cases hdigit
  simp [ipv4Text, hoctet, hdot]

/-- **Groups** are read back, up to where they stop. -/
theorem readGroups_text {rest : List Char} (groups : List UInt16) (left i : Nat)
    (hleft : groups.length ≤ left) (hstops : Stops rest) (hdot : '.' ∉ rest) :
    readGroups left i (groupsText i groups ++ rest) = (groups, false, rest) := by
  induction groups generalizing left i with
  | nil =>
    rw [groupsText, List.nil_append]
    cases left with
    | zero => rfl
    | succ left =>
      have hnone : (if 1 ≤ left then (readSeparator ':' i rest).bind readIpv4Addr else none) =
          none := by
        rw [readSeparator_readIpv4Addr hdot, ite_self]
      rw [readGroups, hnone, hstops.readGroup]
  | cons group groups ih =>
    cases left with
    | zero => exact absurd hleft (Nat.not_succ_le_zero _)
    | succ left =>
      have hall : '.' ∉ groupsText i (group :: groups) ++ rest := by
        rw [List.mem_append]
        exact not_or.mpr ⟨not_mem_groupsText (by decide) (by decide) i _, hdot⟩
      have hnone : (if 1 ≤ left then
          (readSeparator ':' i (groupsText i (group :: groups) ++ rest)).bind readIpv4Addr
          else none) = none := by
        rw [readSeparator_readIpv4Addr hall, ite_self]
      have htext : groupsText i (group :: groups) ++ rest =
          start ':' i ++ (groupText group ++ (groupsText (i + 1) groups ++ rest)) := by
        rw [groupsText, List.append_assoc, List.append_assoc]
      have hgroup : readGroup i (groupsText i (group :: groups) ++ rest) =
          some (group, groupsText (i + 1) groups ++ rest) := by
        rw [htext]
        exact readGroup_text i (groupsText_append_head hstops)
      rw [readGroups, hnone, hgroup]
      dsimp only
      rw [ih left (i + 1) (Nat.le_of_succ_le_succ hleft)]

/-- All groups are read. -/
theorem readIpv6Addr_full (ip : Ipv6Addr) :
    readIpv6Addr (groupsText 0 (segments ip)) = some (ip, []) := by
  have hgroups := readGroups_text (segments ip) 8 0 (Nat.le_refl 8) (.inl rfl) List.not_mem_nil
  rw [List.append_nil] at hgroups
  unfold readIpv6Addr
  rw [hgroups]
  rfl

/-- The groups before the two colons are read, and those after them. -/
theorem readIpv6Addr_compressed {ip : Ipv6Addr} {front back : List UInt16} {zeros : Nat}
    (hsegments : segments ip = front ++ (List.replicate (zeros + 1) 0 ++ back)) :
    readIpv6Addr (groupsText 0 front ++ ':' :: ':' :: groupsText 0 back) = some (ip, []) := by
  have hlen := congrArg List.length hsegments
  rw [List.length_append, List.length_append, List.length_replicate] at hlen
  have hlen : 8 = front.length + (zeros + 1 + back.length) := hlen
  have hdot : '.' ∉ ':' :: ':' :: groupsText 0 back := by
    have hback := not_mem_groupsText (c := '.') (by decide) (by decide) 0 back
    simp [hback]
  have hfront := readGroups_text front 8 0 (by omega) (.inr ⟨_, rfl⟩) hdot
  have hback := readGroups_text back (8 - (front.length + 1)) 0 (by omega) (.inl rfl)
    List.not_mem_nil
  rw [List.append_nil] at hback
  have hzeros : 8 - front.length - back.length = zeros + 1 := by omega
  unfold readIpv6Addr
  rw [hfront]
  dsimp only
  rw [if_neg (by omega), if_neg (by decide), readGiven, if_pos rfl, Option.bind_some, readGiven,
    if_pos rfl, Option.map_some, hback]
  dsimp only
  rw [hzeros, List.append_assoc, ← hsegments]
  rfl

/-- **IPv6 addresses** are read back from each of their texts. -/
theorem parseIpAddr_ipv6Text {ip : Ipv6Addr} {text : List Char} (h : Ipv6Text ip text) :
    parseIpAddr (String.ofList text) = some (.v6 ip) := by
  have hdot : '.' ∉ text := h.not_mem (by decide) (by decide)
  have hread : readIpv6Addr text = some (ip, []) := by
    rcases h with rfl | ⟨front, zeros, back, hsegments, rfl⟩
    · exact readIpv6Addr_full ip
    · exact readIpv6Addr_compressed hsegments
  unfold parseIpAddr
  rw [String.toList_ofList, readIpv4Addr_eq_none hdot, hread]
  rfl

/-- The last groups may be an IPv4 address. -/
example : parseIpAddr "::ffff:169.254.169.254" =
    some (.v6 ⟨0, 0, 0, 0, 0, 0xffff, 0xa9fe, 0xa9fe⟩) := by decide

/-- **IPv4 addresses** are read back. -/
theorem parseIpAddr_ipv4Text (ip : Ipv4Addr) :
    parseIpAddr (String.ofList (ipv4Text ip)) = some (.v4 ip) := by
  unfold parseIpAddr
  rw [String.toList_ofList, readIpv4Addr_text]
  rfl

end IpText

end ProviiVerifier
