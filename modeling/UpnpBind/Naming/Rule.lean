import UpnpBind.Text.Quoted
import UpnpBind.Text.Edit

/-!
# Rewrite rules of the naming scheme

A rule replaces every occurrence of a literal pattern. A normalizer holds two
ordered tables: vendor rules, which fold vendor extension markers such as
"X_AVM-DE_" into one word before separators are dropped, and acronym rules,
which turn an acronym into one capitalised word ("WLAN" becomes "Wlan") so that
case splitting keeps it whole. A table is consistent when no rule has an empty
pattern and no rule contains the pattern of an earlier, different rule, which
would rewrite a part of it first.
-/

namespace UpnpBind.Naming

/-- A literal replacement: every occurrence of `pattern` becomes `replacement`. -/
structure Rule where
  pattern : String
  replacement : String
deriving Repr, DecidableEq, Inhabited

/-- Vendor extension markers, folded into one camel-case word. -/
def vendorRules : List Rule := [
  ⟨"NewX_AVM-DE_", "newXAvmDe"⟩,
  ⟨"NewX_AVM_DE_", "newXAvmDe"⟩,
  ⟨"X_AVM-DE_", "XAvmDe"⟩,
  ⟨"X_", "x"⟩]

/-- Acronyms of TR-064 and IGD services, longer patterns before the shorter
ones they contain. -/
def acronymRules : List Rule := [
  ⟨"NATRSIP", "NatRsip"⟩,
  ⟨"NAT", "Nat"⟩,
  ⟨"RSIP", "Rsip"⟩,
  ⟨"FCS", "Fcs"⟩,
  ⟨"ATM", "Atm"⟩,
  ⟨"DAV", "Dav"⟩,
  ⟨"PPP", "Ppp"⟩,
  ⟨"WAN", "Wan"⟩,
  ⟨"MAC", "Mac"⟩,
  ⟨"AIN", "Ain"⟩,
  ⟨"DDNS", "Ddns"⟩,
  ⟨"DNS", "Dns"⟩,
  ⟨"IPTVo", "IptvO"⟩,
  ⟨"IPTV", "Iptv"⟩,
  ⟨"US", "Us"⟩,
  ⟨"VoIP", "Voip"⟩,
  ⟨"AVM", "Avm"⟩,
  ⟨"URL", "Url"⟩,
  ⟨"ATUC", "Atuc"⟩,
  ⟨"CHECK", "Check"⟩,
  ⟨"DSL", "Dsl"⟩,
  ⟨"DS", "Ds"⟩,
  ⟨"SNRG", "Snrg_"⟩,
  ⟨"SNRMT", "Snrmt_"⟩,
  ⟨"SNR", "Snr_"⟩,
  ⟨"LATN", "Latn_"⟩,
  ⟨"HEC", "Hec"⟩,
  ⟨"TAM", "Tam"⟩,
  ⟨"OKZ", "Okz"⟩,
  ⟨"LKZ", "Lkz"⟩,
  ⟨"STUN", "Stun"⟩,
  ⟨"UPnP", "Upnp"⟩,
  ⟨"FTP", "Ftp"⟩,
  ⟨"SSL", "Ssl"⟩,
  ⟨"SMB", "Smb"⟩,
  ⟨"CGI", "Cgi"⟩,
  ⟨"NTP", "Ntp"⟩,
  ⟨"TR069", "Tr069"⟩,
  ⟨"BSSID", "Bssid"⟩,
  ⟨"SSID", "Ssid"⟩,
  ⟨"SID", "Sid"⟩,
  ⟨"UUID", "Uuid"⟩,
  ⟨"OUI", "Oui"⟩,
  ⟨"ATUR", "Atur"⟩,
  ⟨"FEC", "Fec"⟩,
  ⟨"CRC", "Crc"⟩,
  ⟨"PSK", "Psk"⟩,
  ⟨"WEP", "Wep"⟩,
  ⟨"WPA", "Wpa"⟩,
  ⟨"WLAN", "Wlan"⟩,
  ⟨"LAN", "Lan"⟩,
  ⟨"AP", "Ap"⟩,
  ⟨"WPS", "Wps"⟩,
  ⟨"RX", "Rx"⟩,
  ⟨"WOL", "Wol"⟩,
  ⟨"DHCP", "Dhcp"⟩,
  ⟨"ID", "Id"⟩,
  ⟨"IP", "Ip"⟩]

/-- The two ordered rule tables identifiers are normalized with. The default
value has empty tables, so only separator dropping and case splitting apply. -/
structure Normalizer where
  vendor : List Rule := []
  acronyms : List Rule := []
deriving Repr, DecidableEq, Inhabited

/-- The normalizer for the TR-064 and IGD vendor and acronym tables. -/
def Normalizer.standard : Normalizer := ⟨vendorRules, acronymRules⟩

/-- The normalizer whose acronym table is `extra` followed by the current one,
so the extra rules apply first. -/
def Normalizer.withAcronyms (n : Normalizer) (extra : List Rule) : Normalizer :=
  { n with acronyms := extra ++ n.acronyms }

/-- Why a rule table is inconsistent. -/
inductive RuleConflict where
  /-- The rule at this index of its table has an empty pattern. -/
  | emptyPattern (index : Nat)
  /-- The pattern `later` contains the pattern `earlier` of a rule before it. -/
  | shadowed (later earlier : String)
deriving Repr, DecidableEq

/-- The text of a rule conflict. -/
def RuleConflict.message : RuleConflict → String
  | .emptyPattern i => "rule " ++ toString i ++ ": empty pattern"
  | .shadowed later earlier =>
    "rule " ++ Text.quote later ++ " is shadowed by earlier rule " ++ Text.quote earlier

/-- The first earlier pattern that the pattern `later` contains, if any. -/
def shadowOf (earlier : List Rule) (later : Rule) : Option RuleConflict :=
  match earlier.find? (fun e => e.pattern != later.pattern && Text.contains later.pattern e.pattern) with
  | some e => some (.shadowed later.pattern e.pattern)
  | none => none

/-- The first conflict of a table whose rules from index `index` on are `rules`,
after the rules `seen`. -/
def tableConflictFrom (seen : List Rule) (index : Nat) : List Rule → Option RuleConflict
  | [] => none
  | r :: rs =>
    if r.pattern.isEmpty then some (.emptyPattern index)
    else match shadowOf seen r with
      | some c => some c
      | none => tableConflictFrom (seen ++ [r]) (index + 1) rs

/-- The first conflict of one table, in table order. -/
def tableConflict (rules : List Rule) : Option RuleConflict := tableConflictFrom [] 0 rules

/-- The first conflict of the vendor table, else of the acronym table. -/
def Normalizer.conflict (n : Normalizer) : Option RuleConflict :=
  match tableConflict n.vendor with
  | some c => some c
  | none => tableConflict n.acronyms

end UpnpBind.Naming
