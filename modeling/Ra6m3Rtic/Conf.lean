import Ra6m3Rtic.Lib.Text
import Ra6m3Rtic.Smoltcp

namespace Ra6m3Rtic.Conf
open Smoltcp Text

-- `conf.rs` is evaluated at build time: a panic there, or an array pattern of
-- another length, ends the build. A text is the characters of a `&str`.
inductive BuildError where
  | unwrapNone
  | panicked (message : String)
  | parts (found : Nat)
  deriving DecidableEq, Repr

def parseUnsigned (limit : Nat) (ofNat : Nat → α) (s : List Char) (radix : Nat) (msg : String) : Except BuildError α :=
  match fromStrRadix limit radix s with
  | some n => .ok (ofNat n)
  | none => .error (.panicked msg)

def parseU8 : List Char → Nat → String → Except BuildError UInt8 := parseUnsigned 255 UInt8.ofNat
def parseU16 : List Char → Nat → String → Except BuildError UInt16 := parseUnsigned 65535 UInt16.ofNat

def splitIp (ip : List Char) : Except BuildError (List Char × UInt8) :=
  match splitOnce '/' ip with
  | none => .error .unwrapNone
  | some (ip,mask) =>
    match parseU8 mask 10 "Invalid IP mask" with
    | .error e => .error e
    | .ok mask => .ok (ip,mask)

-- `iter::collect_const!` over `string::split`: one element for each part.
def collectConst (sep : Char) (parse : List Char → Except BuildError α) (s : List Char) : Except BuildError (List α) :=
  (s.splitOn sep).mapM parse

def parseIpv4 (s : List Char) (make : UInt8 → UInt8 → UInt8 → UInt8 → α) : Except BuildError α :=
  match collectConst '.' (parseU8 · 10 "Invalid IP_V4 address") s with
  | .error e => .error e
  | .ok [a,b,c,d] => .ok (make a b c d)
  | .ok other => .error (.parts other.length)

def parseIpv6 (s : List Char)
    (make : UInt16 → UInt16 → UInt16 → UInt16 → UInt16 → UInt16 → UInt16 → UInt16 → α) : Except BuildError α :=
  match collectConst ':' (parseU16 · 16 "Invalid IP_V6 address") s with
  | .error e => .error e
  | .ok [a,b,c,d,e,f,g,h] => .ok (make a b c d e f g h)
  | .ok other => .error (.parts other.length)

-- The constants, as functions of the environment variables they are read from.
def mac (env : String) : Except BuildError (Vector UInt8 6) :=
  match collectConst ':' (parseU8 · 16 "Invalid MAC address") env.toList with
  | .error e => .error e
  | .ok bytes => if sized : bytes.toArray.size = 6 then .ok ⟨bytes.toArray,sized⟩ else .error (.parts bytes.length)

-- `parse!(split_ip(env).0)` and `split_ip(env).1`.
def address (parse : List Char → Except BuildError IpAddress) (env : String) : Except BuildError IpAddress :=
  match splitIp env.toList with
  | .error e => .error e
  | .ok (ip,_) => parse ip
def netmask (env : String) : Except BuildError UInt8 :=
  match splitIp env.toList with
  | .error e => .error e
  | .ok (_,mask) => .ok mask

def ipV4 : String → Except BuildError IpAddress := address (parseIpv4 · IpAddress.v4)
def ipV4Netmask : String → Except BuildError UInt8 := netmask
def ipV6 : String → Except BuildError IpAddress := address (parseIpv6 · IpAddress.v6)
def ipV6Netmask : String → Except BuildError UInt8 := netmask

-- `IpCidr::new` asserts that the prefix fits the address.
structure IpCidr where
  address : IpAddress
  prefixLen : UInt8
  deriving DecidableEq, Repr

def IpCidr.new (address : IpAddress) (prefixLen : UInt8) : Option IpCidr :=
  match address with
  | .v4 _ _ _ _ => if prefixLen ≤ 32 then some ⟨address,prefixLen⟩ else none
  | .v6 _ _ _ _ _ _ _ _ => if prefixLen ≤ 128 then some ⟨address,prefixLen⟩ else none

-- The three pushes of `init_network` into the list of `iface-max-addr-count-3`;
-- `none` is a panic, at boot this time.
def push (addrs : List IpCidr) (cidr : IpCidr) : Option (List IpCidr) :=
  if addrs.length < 3 then some (addrs ++ [cidr]) else none

def loopback : IpAddress := .v6 0xfe80 0 0 0 0 0 0 1

def updateIpAddrs (v4 : IpAddress) (v4Mask : UInt8) (v6 : IpAddress) (v6Mask : UInt8) : Option (List IpCidr) := do
  let addrs ← push [] (← IpCidr.new v4 v4Mask)
  let addrs ← push addrs (← IpCidr.new v6 v6Mask)
  push addrs (← IpCidr.new loopback 64)

theorem parseUnsigned_ok {ofNat : Nat → α} (positive : 0 < radix) :
    parseUnsigned limit ofNat s radix msg = .ok v ↔ Reads limit radix ofNat s v := by
  unfold parseUnsigned
  split
  · rename_i n read
    obtain ⟨spells,within⟩ := (fromStrRadix_iff positive).mp read
    constructor
    · intro same
      cases same
      exact ⟨n,spells,within,rfl⟩
    · intro other
      obtain ⟨m,same,_,equal⟩ := other
      rw [spells.functional same,equal]
  · rename_i failed
    constructor
    · intro same; cases same
    · intro other
      obtain ⟨n,spells,within,_⟩ := other
      rw [(fromStrRadix_iff positive).mpr ⟨spells,within⟩] at failed
      cases failed

theorem splitIp_ok : splitIp text = .ok (ip,mask) ↔
    ∃ digits, text = ip ++ '/' :: digits ∧ '/' ∉ ip ∧ Reads 255 10 UInt8.ofNat digits mask := by
  unfold splitIp
  split
  · rename_i none
    constructor
    · intro same; cases same
    · intro split
      obtain ⟨digits,equal,absent,_⟩ := split
      rw [splitOnce_iff.mpr ⟨equal,absent⟩] at none
      cases none
  · rename_i before digits split
    constructor
    · intro same
      cases read : parseU8 digits 10 "Invalid IP mask" with
      | error e => rw [read] at same; cases same
      | ok value =>
        rw [read] at same
        cases same
        obtain ⟨whole,absent⟩ := splitOnce_iff.mp split
        exact ⟨digits,whole,absent,(parseUnsigned_ok (by decide)).mp read⟩
    · intro other
      obtain ⟨others,equal,absent,reads⟩ := other
      cases split.symm.trans (splitOnce_iff.mpr ⟨equal,absent⟩)
      have read : parseU8 digits 10 "Invalid IP mask" = .ok mask := (parseUnsigned_ok (by decide)).mpr reads
      rw [read]

-- How a list of numbers is written. No separator can stand in a number.
structure Format where
  sep : Char
  radix : Nat
  positive : 0 < radix
  foreign : toDigit radix sep = none
  plain : sep ≠ '+'
  apart : sep ≠ '/'

def dotted : Format := ⟨'.',10,by decide,by decide,by decide,by decide⟩
def coloned : Format := ⟨':',16,by decide,by decide,by decide,by decide⟩

theorem Format.no_sep (format : Format) {parts : List (List Char)}
    (numbers : ∀ part ∈ parts, Numeral limit format.radix (unsigned part)) :
    ∀ part ∈ parts, format.sep ∉ part := by
  intro part member
  exact (numbers part member).absent format.foreign format.plain

theorem Format.no_slash (format : Format) {parts : List (List Char)}
    (numbers : ∀ part ∈ parts, Numeral limit format.radix (unsigned part)) :
    '/' ∉ [format.sep].intercalate parts := by
  intro member
  rcases mem_intercalate member with same | ⟨part,found,inside⟩
  · exact format.apart same.symm
  · exact (numbers part found).absent (toDigit_slash format.radix) (by decide) inside

theorem collectConst_ok {ofNat : Nat → α} (format : Format) :
    collectConst format.sep (parseUnsigned limit ofNat · format.radix msg) s = .ok values ↔
      ∃ parts, parts ≠ [] ∧ s = [format.sep].intercalate parts ∧
        List.Forall₂ (Reads limit format.radix ofNat) parts values := by
  unfold collectConst
  rw [mapM_ok]
  have same : (fun part v => parseUnsigned limit ofNat part format.radix msg = .ok v) = Reads limit format.radix ofNat := by
    funext part v
    exact propext (parseUnsigned_ok format.positive)
  rw [same]
  constructor
  · intro read
    exact ⟨s.splitOn format.sep,List.splitOn_ne_nil format.sep s,(List.intercalate_splitOn format.sep).symm,read⟩
  · intro split
    obtain ⟨parts,some,equal,read⟩ := split
    rw [equal,List.splitOn_intercalate format.sep (format.no_sep (reads_numbers read)) some]
    exact read

-- Both halves of a CIDR text: the joined numbers and the mask behind the slash.
def joined (sep : Char) (parts : List (List Char)) (mask : List Char) : List Char := [sep].intercalate parts ++ '/' :: mask

theorem cidr_ok {ofNat : Nat → α} (format : Format) :
    (∃ ip, splitIp text = .ok (ip,mask) ∧
      collectConst format.sep (parseUnsigned limit ofNat · format.radix msg) ip = .ok values) ↔
    ∃ parts digits, parts ≠ [] ∧ text = joined format.sep parts digits ∧
      List.Forall₂ (Reads limit format.radix ofNat) parts values ∧ Reads 255 10 UInt8.ofNat digits mask := by
  constructor
  · intro read
    obtain ⟨ip,split,numbers⟩ := read
    obtain ⟨digits,whole,_,reads⟩ := splitIp_ok.mp split
    obtain ⟨parts,some,equal,all⟩ := (collectConst_ok format).mp numbers
    subst equal
    exact ⟨parts,digits,some,whole,all,reads⟩
  · intro read
    obtain ⟨parts,digits,some,whole,all,reads⟩ := read
    have absent := format.no_slash (reads_numbers all)
    exact ⟨[format.sep].intercalate parts,splitIp_ok.mpr ⟨digits,whole,absent,reads⟩,
      (collectConst_ok format).mpr ⟨parts,some,rfl,all⟩⟩

theorem address_ok : address parse env = .ok ip ∧ netmask env = .ok mask ↔
    ∃ text, splitIp env.toList = .ok (text,mask) ∧ parse text = .ok ip := by
  unfold address netmask
  cases split : splitIp env.toList with
  | error e => simp
  | ok pair =>
    obtain ⟨text,m⟩ := pair
    constructor
    · intro both
      obtain ⟨read,same⟩ := both
      cases same
      exact ⟨text,rfl,read⟩
    · intro split
      obtain ⟨other,same,read⟩ := split
      cases same
      exact ⟨read,rfl⟩

-- What tells the two families apart; a byte holds every prefix length.
structure Family extends Format where
  groups : Nat
  limit : Nat
  bits : Nat
  nonempty : 0 < groups
  narrow : bits ≤ 255

def v4 : Family := ⟨dotted,4,255,32,by decide,by decide⟩
def v6 : Family := ⟨coloned,8,65535,128,by decide,by decide⟩

-- The array pattern at the end of the two pipelines.
def fromOctets : List UInt8 → Option IpAddress
  | [a,b,c,d] => some (.v4 a b c d)
  | _ => none
def fromGroups : List UInt16 → Option IpAddress
  | [a,b,c,d,e,f,g,h] => some (.v6 a b c d e f g h)
  | _ => none

-- All the proofs below need of the two macros.
structure Builds (family : Family) (msg : String) (ofNat : Nat → α) (build : List α → Option IpAddress)
    (parse : List Char → Except BuildError IpAddress) : Prop where
  collects : ∀ text ip, parse text = .ok ip ↔
    ∃ values, collectConst family.sep (parseUnsigned family.limit ofNat · family.radix msg) text = .ok values ∧
      build values = some ip
  counted : ∀ values, (build values).isSome ↔ values.length = family.groups
  width : ∀ values ip length, build values = some ip → ((IpCidr.new ip length).isSome ↔ length.toNat ≤ family.bits)

theorem ipV4_builds : Builds v4 "Invalid IP_V4 address" UInt8.ofNat fromOctets (parseIpv4 · .v4) := by
  refine ⟨?_,?_,?_⟩
  · intro text ip
    change parseIpv4 text .v4 = .ok ip ↔
      ∃ values, collectConst '.' (parseU8 · 10 "Invalid IP_V4 address") text = .ok values ∧ fromOctets values = some ip
    unfold parseIpv4 fromOctets
    cases collectConst '.' (parseU8 · 10 "Invalid IP_V4 address") text with
    | error e => simp
    | ok values => split <;> simp_all
  · intro values
    unfold fromOctets
    split
    · simp [v4]
    · rename_i other
      constructor
      · intro none; cases none
      · intro four
        match values,four with
        | [a,b,c,d],_ => exact absurd rfl (other a b c d)
  · intro values ip length made
    unfold fromOctets at made
    split at made
    · cases made
      simp [IpCidr.new,v4,UInt8.le_iff_toNat_le]
    · cases made

theorem ipV6_builds : Builds v6 "Invalid IP_V6 address" UInt16.ofNat fromGroups (parseIpv6 · .v6) := by
  refine ⟨?_,?_,?_⟩
  · intro text ip
    change parseIpv6 text .v6 = .ok ip ↔
      ∃ values, collectConst ':' (parseU16 · 16 "Invalid IP_V6 address") text = .ok values ∧ fromGroups values = some ip
    unfold parseIpv6 fromGroups
    cases collectConst ':' (parseU16 · 16 "Invalid IP_V6 address") text with
    | error e => simp
    | ok values => split <;> simp_all
  · intro values
    unfold fromGroups
    split
    · simp [v6]
    · rename_i other
      constructor
      · intro none; cases none
      · intro eight
        match values,eight with
        | [a,b,c,d,e,f,g,h],_ => exact absurd rfl (other a b c d e f g h)
  · intro values ip length made
    unfold fromGroups at made
    split at made
    · cases made
      simp [IpCidr.new,v6,UInt8.le_iff_toNat_le]
    · cases made

-- What is written and what is read, number by number and in order.
theorem Builds.read {ofNat : Nat → α} (builds : Builds family msg ofNat build parse) :
    address parse env = .ok ip ∧ netmask env = .ok mask ↔
      ∃ parts digits values, env.toList = joined family.sep parts digits ∧
        List.Forall₂ (Reads family.limit family.radix ofNat) parts values ∧ Reads 255 10 UInt8.ofNat digits mask ∧
        build values = some ip := by
  rw [address_ok]
  constructor
  · intro read
    obtain ⟨text,split,parsed⟩ := read
    obtain ⟨values,numbers,made⟩ := (builds.collects text ip).mp parsed
    obtain ⟨parts,digits,_,whole,all,reads⟩ := (cidr_ok family.toFormat).mp ⟨text,split,numbers⟩
    exact ⟨parts,digits,values,whole,all,reads,made⟩
  · intro read
    obtain ⟨parts,digits,values,whole,all,reads,made⟩ := read
    have count : values.length = family.groups := (builds.counted values).mp (by rw [made]; rfl)
    have some : parts ≠ [] := by
      have nonempty := family.nonempty
      rw [← count,← all.length_eq] at nonempty
      exact List.length_pos_iff.mp nonempty
    obtain ⟨text,split,numbers⟩ := (cidr_ok family.toFormat).mpr ⟨parts,digits,some,whole,all,reads⟩
    exact ⟨text,split,(builds.collects text ip).mpr ⟨values,numbers,made⟩⟩

theorem mac_ok : mac env = .ok bytes ↔
    ∃ parts, env.toList = [':'].intercalate parts ∧ List.Forall₂ (Reads 255 16 UInt8.ofNat) parts bytes.toList := by
  have numbers : ∀ values, collectConst ':' (parseU8 · 16 "Invalid MAC address") env.toList = .ok values ↔
      ∃ parts, parts ≠ [] ∧ env.toList = [':'].intercalate parts ∧ List.Forall₂ (Reads 255 16 UInt8.ofNat) parts values :=
    fun values => collectConst_ok coloned
  unfold mac
  constructor
  · intro read
    split at read
    · cases read
    · rename_i values collected
      split at read
      · cases read
        obtain ⟨parts,_,whole,all⟩ := (numbers values).mp collected
        exact ⟨parts,whole,by simpa using all⟩
      · cases read
  · intro read
    obtain ⟨parts,whole,all⟩ := read
    have some : parts ≠ [] := by
      intro none
      have count := all.length_eq
      simp [none] at count
    rw [(numbers bytes.toList).mpr ⟨parts,some,whole,all⟩]
    simp [Vector.toList]

-- The texts the constants are meant to be written as.
def decimal (n : Nat) : List Char := Nat.toDigits 10 n
def octets (a b c d : UInt8) : List (List Char) := [decimal a.toNat,decimal b.toNat,decimal c.toNat,decimal d.toNat]
def Hexadecimal (text : List Char) (n : Nat) : Prop :=
  ∃ zeros, text.map Char.toLower = List.replicate zeros '0' ++ Nat.toDigits 16 n
def cidr (sep : Char) (numbers : List (List Char)) (mask : UInt8) : String :=
  String.ofList (joined sep numbers (decimal mask.toNat))
def colons (numbers : List (List Char)) : String := String.ofList ([':'].intercalate numbers)

theorem decimal_spells (n : Nat) : Spells 10 (decimal n) n := spells_toDigits (by decide) (by decide) n

theorem decimal_reads (b : UInt8) : Reads 255 10 UInt8.ofNat (decimal b.toNat) b :=
  reads_of_spells (decimal_spells b.toNat) (Nat.le_of_lt_succ b.toNat_lt) UInt8.ofNat_toNat

theorem Hexadecimal.spells (hex : Hexadecimal text n) : Spells 16 text n := by
  obtain ⟨zeros,same⟩ := hex
  apply Spells.of_toLower
  rw [same]
  exact (spells_toDigits (by decide) (by decide) n).zeros (by decide) zeros

theorem group_reads (hex : Hexadecimal text (group : UInt16).toNat) : Reads 65535 16 UInt16.ofNat text group :=
  reads_of_spells hex.spells (Nat.le_of_lt_succ group.toNat_lt) UInt16.ofNat_toNat

theorem byte_reads (hex : Hexadecimal text (byte : UInt8).toNat) : Reads 255 16 UInt8.ofNat text byte :=
  reads_of_spells hex.spells (Nat.le_of_lt_succ byte.toNat_lt) UInt8.ofNat_toNat

-- Every address, group and byte comes back from the text it is written as, and
-- so does every mask.
theorem configuration_round_trip :
    (∀ a b c d mask : UInt8, ipV4 (cidr '.' (octets a b c d) mask) = .ok (.v4 a b c d) ∧
      ipV4Netmask (cidr '.' (octets a b c d) mask) = .ok mask) ∧
    (∀ (a b c d e f g h : UInt16) (mask : UInt8) (texts : List (List Char)),
      List.Forall₂ (fun text (group : UInt16) => Hexadecimal text group.toNat) texts [a,b,c,d,e,f,g,h] →
      ipV6 (cidr ':' texts mask) = .ok (.v6 a b c d e f g h) ∧ ipV6Netmask (cidr ':' texts mask) = .ok mask) ∧
    (∀ (bytes : Vector UInt8 6) (texts : List (List Char)),
      List.Forall₂ (fun text (byte : UInt8) => text.length = 2 ∧ Hexadecimal text byte.toNat) texts bytes.toList →
      mac (colons texts) = .ok bytes) := by
  refine ⟨?_,?_,?_⟩
  · intro a b c d mask
    apply ipV4_builds.read.mpr
    refine ⟨octets a b c d,decimal mask.toNat,[a,b,c,d],String.toList_ofList,?_,decimal_reads mask,rfl⟩
    exact .cons (decimal_reads a) (.cons (decimal_reads b) (.cons (decimal_reads c) (.cons (decimal_reads d) .nil)))
  · intro a b c d e f g h mask texts written
    apply ipV6_builds.read.mpr
    refine ⟨texts,decimal mask.toNat,[a,b,c,d,e,f,g,h],String.toList_ofList,?_,decimal_reads mask,rfl⟩
    exact written.imp fun _ _ hex => group_reads hex
  · intro bytes texts written
    apply mac_ok.mpr
    refine ⟨texts,String.toList_ofList,?_⟩
    exact written.imp fun _ _ hex => byte_reads hex.2

-- The example configuration, one group in capitals.
namespace Controls
def groups : List (List Char) := ["FDAA","0000","0000","0000","0000","0000","0000","100"].map String.toList
def bytes : List (List Char) := ["fe","e3","a9","97","ad","ab"].map String.toList
end Controls

theorem example_configuration_read :
    ipV4 "192.168.69.100/24" = .ok (.v4 192 168 69 100) ∧ ipV4Netmask "192.168.69.100/24" = .ok 24 ∧
    ipV6 "FDAA:0000:0000:0000:0000:0000:0000:100/64" = .ok (.v6 0xfdaa 0 0 0 0 0 0 0x100) ∧
    ipV6Netmask "FDAA:0000:0000:0000:0000:0000:0000:100/64" = .ok 64 ∧
    mac "fe:e3:a9:97:ad:ab" = .ok #v[0xfe,0xe3,0xa9,0x97,0xad,0xab] := by
  obtain ⟨first,second,third⟩ := configuration_round_trip
  have octets := first 192 168 69 100 24
  have zero : Hexadecimal "0000".toList 0 := ⟨3,by decide⟩
  have groups := second 0xfdaa 0 0 0 0 0 0 0x100 64 Controls.groups
    (.cons ⟨0,by decide⟩ (.cons zero (.cons zero (.cons zero
      (.cons zero (.cons zero (.cons zero (.cons ⟨0,by decide⟩ .nil))))))))
  have bytes := third #v[0xfe,0xe3,0xa9,0x97,0xad,0xab] Controls.bytes
    (.cons ⟨rfl,0,by decide⟩ (.cons ⟨rfl,0,by decide⟩ (.cons ⟨rfl,0,by decide⟩
      (.cons ⟨rfl,0,by decide⟩ (.cons ⟨rfl,0,by decide⟩ (.cons ⟨rfl,0,by decide⟩ .nil))))))
  exact ⟨octets.1,octets.2,groups.1,groups.2,bytes⟩

-- CIDR text as it is meant: digits only, and a prefix no longer than the address.
def WellFormed (family : Family) (text : List Char) : Prop :=
  ∃ parts digits, text = joined family.sep parts digits ∧ parts.length = family.groups ∧
    (∀ part ∈ parts, Numeral family.limit family.radix part) ∧ Numeral family.bits 10 digits

-- The looser shape that gets through the parsers.
structure Cidr (family : Family) (text : List Char) (parts : List (List Char)) (digits : List Char) (length : Nat) :
    Prop where
  joined : text = joined family.sep parts digits
  groups : parts.length = family.groups
  numbers : ∀ part ∈ parts, Numeral family.limit family.radix (unsigned part)
  mask : Spells 10 (unsigned digits) length
  byte : length ≤ 255

-- A sign in front of a number, or a prefix that is too long.
def Slack (family : Family) (text : List Char) : Prop :=
  ∃ parts digits length, Cidr family text parts digits length ∧
    ((∃ part ∈ digits :: parts, Signed part) ∨ family.bits < length)

-- The parsers of a family take well-formed text and nothing else, and what they
-- take is an address `init_network` can configure.
structure Exact (family : Family) (ip : String → Except BuildError IpAddress) (mask : String → Except BuildError UInt8)
    (env : String) : Prop where
  accepts : (∃ address length, ip env = .ok address ∧ mask env = .ok length) ↔ WellFormed family env.toList
  boots : ∀ address length, ip env = .ok address → mask env = .ok length → (IpCidr.new address length).isSome

-- A parser for one family: it takes the looser shape, all of it, and the prefix
-- it hands out is the one that was written.
structure Parses (family : Family) (ip : String → Except BuildError IpAddress) (mask : String → Except BuildError UInt8) :
    Prop where
  sound : ∀ env address length, ip env = .ok address → mask env = .ok length →
    ((IpCidr.new address length).isSome ↔ length.toNat ≤ family.bits) ∧
    ∃ parts digits, Cidr family env.toList parts digits length.toNat
  complete : ∀ env parts digits length, Cidr family env.toList parts digits length →
    ∃ address, ip env = .ok address ∧ mask env = .ok (UInt8.ofNat length)

theorem Builds.parses {ofNat : Nat → α} (builds : Builds family msg ofNat build parse) :
    Parses family (address parse) netmask := by
  refine ⟨?_,?_⟩
  · intro env ip length read masked
    obtain ⟨parts,digits,values,whole,all,⟨n,spells,within,made⟩,built⟩ := builds.read.mp ⟨read,masked⟩
    have value : length.toNat = n := by rw [← made,UInt8.toNat_ofNat_of_lt' (Nat.lt_succ_of_le within)]
    have count : values.length = family.groups := (builds.counted values).mp (by rw [built]; rfl)
    refine ⟨builds.width values ip length built,parts,digits,whole,all.length_eq.trans count,reads_numbers all,?_,?_⟩
    · rwa [value]
    · rwa [value]
  · intro env parts digits length cidr
    obtain ⟨values,all⟩ := numbers_read ofNat cidr.numbers
    have count : values.length = family.groups := all.length_eq.symm.trans cidr.groups
    obtain ⟨ip,built⟩ := Option.isSome_iff_exists.mp ((builds.counted values).mpr count)
    exact ⟨ip,builds.read.mpr ⟨parts,digits,values,cidr.joined,all,⟨length,cidr.mask,cidr.byte,rfl⟩,built⟩⟩

theorem ipV4_parses : Parses v4 ipV4 ipV4Netmask := ipV4_builds.parses
theorem ipV6_parses : Parses v6 ipV6 ipV6Netmask := ipV6_builds.parses

-- A text has the looser shape in one way at most.
theorem Cidr.split (cidr : Cidr family text parts digits length) :
    splitOnce '/' text = some ([family.sep].intercalate parts,digits) ∧
    ([family.sep].intercalate parts).splitOn family.sep = parts := by
  have some : parts ≠ [] := by
    have nonempty := family.nonempty
    rw [← cidr.groups] at nonempty
    exact List.length_pos_iff.mp nonempty
  refine ⟨splitOnce_iff.mpr ⟨cidr.joined,family.toFormat.no_slash cidr.numbers⟩,?_⟩
  exact List.splitOn_intercalate family.sep (family.toFormat.no_sep cidr.numbers) some

theorem Cidr.unique (cidr : Cidr family text parts digits length) (other : Cidr family text parts' digits' length') :
    parts = parts' ∧ digits = digits' ∧ length = length' := by
  obtain ⟨cut,split⟩ := cidr.split
  obtain ⟨cut',split'⟩ := other.split
  have same := cut.symm.trans cut'
  simp only [Option.some.injEq,Prod.mk.injEq] at same
  obtain ⟨joined,mask⟩ := same
  have parted : parts = parts' := by rw [← split,joined,split']
  subst mask
  exact ⟨parted,rfl,cidr.mask.functional other.mask⟩

theorem wellFormed_iff : WellFormed family text ↔ ∃ parts digits length, Cidr family text parts digits length ∧
    (∀ part ∈ digits :: parts, ¬Signed part) ∧ length ≤ family.bits := by
  constructor
  · intro formed
    obtain ⟨parts,digits,whole,groups,numbers,length,spells,fits⟩ := formed
    have plain : ∀ part ∈ digits :: parts, ¬Signed part := by
      intro part member
      rcases List.mem_cons.mp member with rfl | inside
      · exact spells.not_signed
      · obtain ⟨n,number,_⟩ := numbers part inside
        exact number.not_signed
    refine ⟨parts,digits,length,⟨whole,groups,?_,?_,Nat.le_trans fits family.narrow⟩,plain,fits⟩
    · intro part member
      rw [unsigned_eq (plain part (List.mem_cons_of_mem digits member))]
      exact numbers part member
    · rwa [unsigned_eq (plain digits List.mem_cons_self)]
  · intro formed
    obtain ⟨parts,digits,length,cidr,plain,fits⟩ := formed
    refine ⟨parts,digits,cidr.joined,cidr.groups,?_,length,?_,fits⟩
    · intro part member
      have number := cidr.numbers part member
      rwa [unsigned_eq (plain part (List.mem_cons_of_mem digits member))] at number
    · have mask := cidr.mask
      rwa [unsigned_eq (plain digits List.mem_cons_self)] at mask

theorem WellFormed.not_slack (formed : WellFormed family text) : ¬Slack family text := by
  intro slack
  obtain ⟨parts,digits,length,cidr,loose⟩ := slack
  obtain ⟨parts',digits',length',strict,plain,fits⟩ := wellFormed_iff.mp formed
  obtain ⟨rfl,rfl,rfl⟩ := cidr.unique strict
  rcases loose with ⟨part,member,signed⟩ | long
  · exact plain part member signed
  · omega

-- The sign in front of a well-formed text is the sign of its first number.
theorem WellFormed.signed_slack (formed : WellFormed family text) : Slack family ('+' :: text) := by
  obtain ⟨parts,digits,length,cidr,plain,_⟩ := wellFormed_iff.mp formed
  cases parts with
  | nil =>
    have groups : 0 = family.groups := cidr.groups
    have nonempty := family.nonempty
    omega
  | cons part rest =>
    have signed : joined family.sep (('+' :: part) :: rest) digits = '+' :: joined family.sep (part :: rest) digits := by
      cases rest <;> simp [joined,List.intercalate]
    have numbers : ∀ other ∈ ('+' :: part) :: rest, Numeral family.limit family.radix (unsigned other) := by
      intro other member
      rcases List.mem_cons.mp member with rfl | inside
      · have first := cidr.numbers part List.mem_cons_self
        rwa [unsigned_eq (plain part (by simp))] at first
      · exact cidr.numbers other (List.mem_cons_of_mem part inside)
    have loose : Cidr family ('+' :: text) (('+' :: part) :: rest) digits length :=
      ⟨by rw [signed,cidr.joined],cidr.groups,numbers,cidr.mask,cidr.byte⟩
    exact ⟨_,digits,length,loose,.inl ⟨'+' :: part,by simp,rfl⟩⟩

theorem exact_iff (parses : Parses family ip mask) : Exact family ip mask env ↔ ¬Slack family env.toList := by
  constructor
  · intro exact_ slack
    have loose := slack
    obtain ⟨parts,digits,length,cidr,_⟩ := slack
    obtain ⟨address,read,masked⟩ := parses.complete env parts digits length cidr
    exact (exact_.accepts.mp ⟨address,_,read,masked⟩).not_slack loose
  · intro strict
    have plain : ∀ parts digits length, Cidr family env.toList parts digits length →
        (∀ part ∈ digits :: parts, ¬Signed part) ∧ length ≤ family.bits := by
      intro parts digits length cidr
      refine ⟨?_,?_⟩
      · intro part member signed
        exact strict ⟨parts,digits,length,cidr,.inl ⟨part,member,signed⟩⟩
      · by_contra long
        exact strict ⟨parts,digits,length,cidr,.inr (by omega)⟩
    refine ⟨⟨?_,?_⟩,?_⟩
    · intro accepted
      obtain ⟨address,length,read,masked⟩ := accepted
      obtain ⟨_,parts,digits,cidr⟩ := parses.sound env address length read masked
      exact wellFormed_iff.mpr ⟨parts,digits,length.toNat,cidr,plain parts digits length.toNat cidr⟩
    · intro formed
      obtain ⟨parts,digits,length,cidr,_⟩ := wellFormed_iff.mp formed
      obtain ⟨address,read,masked⟩ := parses.complete env parts digits length cidr
      exact ⟨address,_,read,masked⟩
    · intro address length read masked
      obtain ⟨fits,parts,digits,cidr⟩ := parses.sound env address length read masked
      exact fits.mpr (plain parts digits length.toNat cidr).2

theorem updateIpAddrs_isSome (first : (IpCidr.new a m).isSome) (second : (IpCidr.new b n).isSome) :
    (updateIpAddrs a m b n).isSome := by
  obtain ⟨x,made⟩ := Option.isSome_iff_exists.mp first
  obtain ⟨y,other⟩ := Option.isSome_iff_exists.mp second
  have third : IpCidr.new loopback 64 = some ⟨loopback,64⟩ := rfl
  simp [updateIpAddrs,made,other,third,push]

-- The parsers are exact on every text but the two kinds that slip through, and
-- away from those what builds also boots.
theorem accepts_exactly_unless_slack (env env' : String) :
    (Exact v4 ipV4 ipV4Netmask env ↔ ¬Slack v4 env.toList) ∧
    (Exact v6 ipV6 ipV6Netmask env' ↔ ¬Slack v6 env'.toList) ∧
    (¬Slack v4 env.toList → ¬Slack v6 env'.toList →
      ∀ a m b n, ipV4 env = .ok a → ipV4Netmask env = .ok m → ipV6 env' = .ok b → ipV6Netmask env' = .ok n →
        (updateIpAddrs a m b n).isSome) := by
  refine ⟨exact_iff ipV4_parses,exact_iff ipV6_parses,?_⟩
  intro strict strict' a m b n read masked read' masked'
  have first := ((exact_iff ipV4_parses).mpr strict).boots a m read masked
  have second := ((exact_iff ipV6_parses).mpr strict').boots b n read' masked'
  exact updateIpAddrs_isSome first second

-- What the constants are meant to be written as is well formed whenever the
-- mask fits.
theorem octets_wellFormed (a b c d : UInt8) (fits : mask ≤ 32) :
    WellFormed v4 (cidr '.' (octets a b c d) mask).toList := by
  have octet : ∀ x : UInt8, Numeral 255 10 (decimal x.toNat) :=
    fun x => ⟨x.toNat,decimal_spells x.toNat,Nat.le_of_lt_succ x.toNat_lt⟩
  have masked : Numeral 32 10 (decimal mask.toNat) := ⟨mask.toNat,decimal_spells mask.toNat,UInt8.le_iff_toNat_le.mp fits⟩
  refine ⟨octets a b c d,decimal mask.toNat,String.toList_ofList,rfl,?_,masked⟩
  intro part member
  simp only [octets,List.mem_cons,List.not_mem_nil,or_false] at member
  rcases member with rfl | rfl | rfl | rfl
  · exact octet a
  · exact octet b
  · exact octet c
  · exact octet d

theorem groups_wellFormed (count : texts.length = 8)
    (written : ∀ text ∈ texts, ∃ group : UInt16, Hexadecimal text group.toNat) (fits : mask ≤ 128) :
    WellFormed v6 (cidr ':' texts mask).toList := by
  have masked : Numeral 128 10 (decimal mask.toNat) := ⟨mask.toNat,decimal_spells mask.toNat,UInt8.le_iff_toNat_le.mp fits⟩
  refine ⟨texts,decimal mask.toNat,String.toList_ofList,count,?_,masked⟩
  intro part member
  obtain ⟨group,hex⟩ := written part member
  exact ⟨group.toNat,hex.spells,Nat.le_of_lt_succ group.toNat_lt⟩

theorem accepted_boots :
    ¬Slack v4 "192.168.69.100/24".toList ∧ ¬Slack v6 "FDAA:0000:0000:0000:0000:0000:0000:100/64".toList ∧
    (updateIpAddrs (.v4 192 168 69 100) 24 (.v6 0xfdaa 0 0 0 0 0 0 0x100) 64).isSome := by
  have first : cidr '.' (octets 192 168 69 100) 24 = "192.168.69.100/24" := by decide
  have second : cidr ':' Controls.groups 64 = "FDAA:0000:0000:0000:0000:0000:0000:100/64" := by decide
  have octets : WellFormed v4 "192.168.69.100/24".toList := by
    rw [← first]
    exact octets_wellFormed 192 168 69 100 (by decide)
  have groups : WellFormed v6 "FDAA:0000:0000:0000:0000:0000:0000:100/64".toList := by
    have written : ∀ text ∈ Controls.groups, ∃ group : UInt16, Hexadecimal text group.toNat := by
      intro text member
      simp only [Controls.groups,List.map_cons,List.map_nil,List.mem_cons,List.not_mem_nil,or_false] at member
      have zeros : Hexadecimal "0000".toList (0 : UInt16).toNat := ⟨3,by decide⟩
      rcases member with rfl | rfl | rfl | rfl | rfl | rfl | rfl | rfl
      · exact ⟨0xfdaa,0,by decide⟩
      · exact ⟨0,zeros⟩
      · exact ⟨0,zeros⟩
      · exact ⟨0,zeros⟩
      · exact ⟨0,zeros⟩
      · exact ⟨0,zeros⟩
      · exact ⟨0,zeros⟩
      · exact ⟨0x100,0,by decide⟩
    rw [← second]
    exact groups_wellFormed rfl written (by decide)
  refine ⟨octets.not_slack,groups.not_slack,?_⟩
  have boots := (accepts_exactly_unless_slack "192.168.69.100/24" "FDAA:0000:0000:0000:0000:0000:0000:100/64").2.2
  exact boots octets.not_slack groups.not_slack _ _ _ _ rfl rfl rfl rfl

-- One bit too many for an IPv4 address: the firmware builds and panics at boot.
-- A sign gets through as well.
theorem long_prefix_not_exact :
    ipV4 "192.168.69.100/33" = .ok (.v4 192 168 69 100) ∧ ipV4Netmask "192.168.69.100/33" = .ok 33 ∧
    updateIpAddrs (.v4 192 168 69 100) 33 (.v6 0xfdaa 0 0 0 0 0 0 0x100) 64 = none ∧
    ¬Exact v4 ipV4 ipV4Netmask "192.168.69.100/33" ∧ ¬Exact v4 ipV4 ipV4Netmask "+192.168.69.100/24" := by
  refine ⟨rfl,rfl,rfl,?_,?_⟩
  · intro exact_
    cases exact_.boots (.v4 192 168 69 100) 33 rfl rfl
  · rw [exact_iff ipV4_parses,not_not]
    have formed : WellFormed v4 (cidr '.' (octets 192 168 69 100) 24).toList := octets_wellFormed 192 168 69 100 (by decide)
    have text : '+' :: (cidr '.' (octets 192 168 69 100) 24).toList = "+192.168.69.100/24".toList := by decide
    rw [← text]
    exact formed.signed_slack

end Ra6m3Rtic.Conf
