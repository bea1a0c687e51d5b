import AgentBigBrain.Js.UrlHost
import AgentBigBrain.Orchestration.TaskRunnerNetworkPreflight

/-!
# Which internal hosts the egress policy lets through

The policy compares the text of a host with a few names and beginnings. IPv6 addresses, whose
text stands in brackets, `0.0.0.0`, `172.16/12` and a name with a dot at its end are not among
them. It restricts no scheme.
-/
namespace AgentBigBrain.Orchestration

open AgentBigBrain.Js AgentBigBrain.Core

variable (host : Host)

/-- The hostname, in whatever case, is the text of an internal host. -/
def SpellsInternal (hostname : String) : Prop :=
  ∃ urlHost : UrlHost, urlHost.isInternal = true ∧ urlHost.hostname = host.toLowerCase hostname

/-- An internal host that none of the policy's tests is made for. -/
def isOverlooked : UrlHost → Bool
  | .ipv4 address => address = ⟨0, 0, 0, 0⟩ ||
      (address.first = 172 && 16 ≤ address.second && address.second ≤ 31)
  | .ipv6 address => address.isInternal
  | .name text => text = "localhost."

def SpellsOverlooked (hostname : String) : Prop :=
  ∃ urlHost : UrlHost, isOverlooked urlHost = true ∧
    urlHost.hostname = host.toLowerCase hostname

/-- The reason for which a hostname in lower case is denied. -/
def deniedHostname (hostname : String) : Option String :=
  if hostname = "localhost" ∨ hostname = "::1" then
    some "Localhost egress is denied."
  else if startsWith hostname "127." || startsWith hostname "10." ||
      startsWith hostname "169.254." || startsWith hostname "192.168." then
    some "Private-range IPv4 egress is denied."
  else if endsWith hostname ".local" then
    some ".local egress is denied by default."
  else if includes hostname "metadata" then
    some "Metadata endpoint egress is denied."
  else
    none

lemma evaluateEgressPolicy_eq_none {targetUrl : String} :
    evaluateEgressPolicy host targetUrl = none ↔ ∃ parts, host.parseUrl targetUrl = some parts ∧
      deniedHostname (host.toLowerCase parts.hostname) = none := by
  unfold evaluateEgressPolicy
  cases host.parseUrl targetUrl with
  | none => simp
  | some parts => simp [deniedHostname]

/-! ## Texts of hosts -/

lemma mem_of_includesChars {part cs : List Char} {c : Char} (hc : c ∈ part)
    (h : includesChars part cs = true) : c ∈ cs := by
  induction cs with
  | nil =>
      have hnil : part = [] := by simpa [includesChars] using h
      rw [hnil] at hc
      cases hc
  | cons d cs ih =>
      rcases (Bool.or_eq_true _ _).mp h with hleads | hlater
      · exact (List.isPrefixOf_iff_prefix.mp hleads).subset hc
      · exact List.mem_cons_of_mem d (ih hlater)

/-- A text without `l` and `m` passes unless it begins like an address that is denied. -/
lemma deniedHostname_of_letters {cs : List Char} (hl : 'l' ∉ cs) (hm : 'm' ∉ cs)
    (hcolons : cs ≠ "::1".toList)
    (hleads : (startsWith (String.ofList cs) "127." || startsWith (String.ofList cs) "10." ||
      startsWith (String.ofList cs) "169.254." || startsWith (String.ofList cs) "192.168.") =
        false) :
    deniedHostname (String.ofList cs) = none := by
  have hlocalhost : String.ofList cs ≠ "localhost" := by
    intro h
    apply hl
    rw [show cs = "localhost".toList by rw [← h, String.toList_ofList]]
    decide
  have hloopback : String.ofList cs ≠ "::1" := by
    intro h
    exact hcolons (by rw [← h, String.toList_ofList])
  have hlocal : endsWith (String.ofList cs) ".local" = false := by
    by_contra hends
    rw [Bool.not_eq_false, endsWith, @String.toList_ofList cs] at hends
    exact hl ((List.isSuffixOf_iff_suffix.mp hends).subset (show 'l' ∈ ".local".toList by decide))
  have hmetadata : includes (String.ofList cs) "metadata" = false := by
    by_contra hincludes
    rw [Bool.not_eq_false, includes, @String.toList_ofList cs] at hincludes
    exact hm (mem_of_includesChars (show 'm' ∈ "metadata".toList by decide) hincludes)
  unfold deniedHostname
  rw [if_neg (by simp [hlocalhost, hloopback]), hleads, hlocal, hmetadata]
  rfl

lemma deniedHostname_ipv6 (address : Ipv6Address) :
    deniedHostname (UrlHost.ipv6 address).hostname = none := by
  obtain ⟨inner, hchars⟩ := ipv6_chars_brackets address
  apply deniedHostname_of_letters
  · intro h
    rcases mem_ipv6_chars h with hhex | hmark
    · exact absurd hhex (by decide)
    · exact absurd hmark (by decide)
  · intro h
    rcases mem_ipv6_chars h with hhex | hmark
    · exact absurd hhex (by decide)
    · exact absurd hmark (by decide)
  · rw [hchars]
    intro h
    exact absurd (List.cons.inj h).1 (by decide)
  · rw [hchars]
    simp [startsWith, List.isPrefixOf]

lemma letters_ipv4 (address : Ipv4Address) : 'l' ∉ address.chars ∧ 'm' ∉ address.chars ∧
    address.chars ≠ "::1".toList := by
  have hnot : ∀ c : Char, (c.isDigit || c == '.') = false → c ∉ address.chars := by
    intro c hc hmem
    rcases mem_ipv4_chars hmem with hdigit | hdot
    · simp [hdigit] at hc
    · simp [hdot] at hc
  refine ⟨hnot 'l' (by decide), hnot 'm' (by decide), fun h => ?_⟩
  exact hnot ':' (by decide) (h ▸ by decide)

lemma startsWith_ipv4 {address : Ipv4Address} {octet : ℕ} {lead : String}
    (hlead : lead.toList = Nat.toDigits 10 octet ++ ['.']) (h : (address.first : ℕ) = octet) :
    startsWith (UrlHost.ipv4 address).hostname lead = true := by
  unfold startsWith UrlHost.hostname Ipv4Address.chars
  rw [String.toList_ofList, hlead, h]
  refine List.isPrefixOf_iff_prefix.mpr ⟨Nat.toDigits 10 address.second ++
    '.' :: (Nat.toDigits 10 address.third ++ '.' :: Nat.toDigits 10 address.fourth), ?_⟩
  simp

lemma startsWith_ipv4_pair {address : Ipv4Address} {octet next : ℕ} {lead : String}
    (hlead : lead.toList = Nat.toDigits 10 octet ++ '.' :: (Nat.toDigits 10 next ++ ['.']))
    (h : (address.first : ℕ) = octet) (hnext : (address.second : ℕ) = next) :
    startsWith (UrlHost.ipv4 address).hostname lead = true := by
  unfold startsWith UrlHost.hostname Ipv4Address.chars
  rw [String.toList_ofList, hlead, h, hnext]
  refine List.isPrefixOf_iff_prefix.mpr ⟨Nat.toDigits 10 address.third ++
    '.' :: Nat.toDigits 10 address.fourth, ?_⟩
  simp

lemma leads_of_passed {hostname : String} (h : deniedHostname hostname = none) :
    startsWith hostname "127." ≠ true ∧ startsWith hostname "10." ≠ true ∧
      startsWith hostname "169.254." ≠ true ∧ startsWith hostname "192.168." ≠ true := by
  unfold deniedHostname at h
  split_ifs at h with hlocalhost hleads
  simpa [not_or, and_assoc] using hleads

lemma internal_ipv4_cases {address : Ipv4Address} (h : address.isInternal = true) :
    isOverlooked (.ipv4 address) = true ∨ (address.first : ℕ) = 127 ∨ (address.first : ℕ) = 10 ∨
      ((address.first : ℕ) = 169 ∧ (address.second : ℕ) = 254) ∨
      ((address.first : ℕ) = 192 ∧ (address.second : ℕ) = 168) := by
  simp only [Ipv4Address.isInternal, Ipv4Address.isLoopback, Ipv4Address.isUnspecified,
    Ipv4Address.isLinkLocal, Ipv4Address.isPrivate, Bool.or_eq_true, Bool.and_eq_true,
    decide_eq_true_eq] at h
  rcases h with ((hloopback | hzero) | hlink) | (hten | hrange) | hpair
  · exact Or.inr (Or.inl (congrArg Fin.val hloopback))
  · exact Or.inl (by simp [isOverlooked, hzero])
  · exact Or.inr (Or.inr (Or.inr (Or.inl
      ⟨congrArg Fin.val hlink.1, congrArg Fin.val hlink.2⟩)))
  · exact Or.inr (Or.inr (Or.inl (congrArg Fin.val hten)))
  · exact Or.inl (by simp [isOverlooked, hrange])
  · exact Or.inr (Or.inr (Or.inr (Or.inr
      ⟨congrArg Fin.val hpair.1, congrArg Fin.val hpair.2⟩)))

/-- An internal host is denied unless it is overlooked. -/
lemma deniedHostname_of_internal {urlHost : UrlHost} (hinternal : urlHost.isInternal = true) :
    deniedHostname urlHost.hostname = none ↔ isOverlooked urlHost = true := by
  cases urlHost with
  | ipv6 address => exact iff_of_true (deniedHostname_ipv6 address) hinternal
  | name text =>
      rcases (Bool.or_eq_true _ _).mp hinternal with hname | hname
      · obtain rfl : text = "localhost" := of_decide_eq_true hname
        decide
      · obtain rfl : text = "localhost." := of_decide_eq_true hname
        decide
  | ipv4 address =>
      have hletters := letters_ipv4 address
      constructor
      · intro hpassed
        have hleads := leads_of_passed hpassed
        by_contra hseen
        rcases internal_ipv4_cases hinternal with hoverlooked | hfirst | hfirst | hpair | hpair
        · exact hseen hoverlooked
        · exact hleads.1 (startsWith_ipv4 (by decide) hfirst)
        · exact hleads.2.1 (startsWith_ipv4 (by decide) hfirst)
        · exact hleads.2.2.1 (startsWith_ipv4_pair (by decide) hpair.1 hpair.2)
        · exact hleads.2.2.2 (startsWith_ipv4_pair (by decide) hpair.1 hpair.2)
      · intro hoverlooked
        refine deniedHostname_of_letters hletters.1 hletters.2.1 hletters.2.2 ?_
        rcases (Bool.or_eq_true _ _).mp hoverlooked with hzero | hrange
        · obtain rfl : address = ⟨0, 0, 0, 0⟩ := of_decide_eq_true hzero
          decide
        · have hfirst : (address.first : ℕ) = 172 := by
            simp only [Bool.and_eq_true, decide_eq_true_eq] at hrange
            rw [hrange.1.1]
            rfl
          unfold startsWith Ipv4Address.chars
          rw [String.toList_ofList, hfirst]
          simp [List.isPrefixOf, Nat.toDigits_of_base_le, Nat.toDigits_of_lt_base]

lemma internal_of_overlooked {urlHost : UrlHost} (h : isOverlooked urlHost = true) :
    urlHost.isInternal = true := by
  cases urlHost with
  | ipv6 address => exact h
  | name text =>
      obtain rfl : text = "localhost." := of_decide_eq_true h
      decide
  | ipv4 address =>
      rcases (Bool.or_eq_true _ _).mp h with hzero | hrange
      · simp [UrlHost.isInternal, Ipv4Address.isInternal, Ipv4Address.isUnspecified,
          of_decide_eq_true hzero]
      · simp only [Bool.and_eq_true, decide_eq_true_eq] at hrange
        simp [UrlHost.isInternal, Ipv4Address.isInternal, Ipv4Address.isPrivate, hrange]

/-- A URL that is let through does not lead inside exactly when its host is not overlooked. -/
theorem egress_sound_iff (host : Host) (targetUrl : String) :
    (evaluateEgressPolicy host targetUrl = none →
      ∀ parts ∈ host.parseUrl targetUrl, ¬ SpellsInternal host parts.hostname) ↔
      ∀ parts ∈ host.parseUrl targetUrl, ¬ SpellsOverlooked host parts.hostname := by
  rw [evaluateEgressPolicy_eq_none]
  constructor
  · rintro hsound parts hparts ⟨urlHost, hoverlooked, hhostname⟩
    have hinternal := internal_of_overlooked hoverlooked
    have hpassed := (deniedHostname_of_internal hinternal).mpr hoverlooked
    rw [hhostname] at hpassed
    exact hsound ⟨parts, hparts, hpassed⟩ parts hparts ⟨urlHost, hinternal, hhostname⟩
  · rintro hseen ⟨parts, hparts, hpassed⟩ others hothers ⟨urlHost, hinternal, hhostname⟩
    obtain rfl : parts = others := Option.some.inj (hparts.symm.trans hothers)
    rw [← hhostname] at hpassed
    exact hseen parts hparts
      ⟨urlHost, (deniedHostname_of_internal hinternal).mp hpassed, hhostname⟩

def hostParts (hostname href : String) : UrlParts where
  protocol := "http:"
  hostname := hostname
  port := ""
  pathname := "/"
  search := ""
  href := href

def internalUrls : Host :=
  .ofTables [] [("http://[::1]/", hostParts "[::1]" "http://[::1]/"),
    ("http://172.16.0.1/", hostParts "172.16.0.1" "http://172.16.0.1/"),
    ("http://0.0.0.0/", hostParts "0.0.0.0" "http://0.0.0.0/"),
    ("http://localhost./", hostParts "localhost." "http://localhost./")]

lemma not_sound_of_passed {host : Host} {targetUrl : String} {parts : UrlParts} (urlHost : UrlHost)
    (hpassed : evaluateEgressPolicy host targetUrl = none)
    (hparts : host.parseUrl targetUrl = some parts) (hinternal : urlHost.isInternal = true)
    (hhostname : urlHost.hostname = host.toLowerCase parts.hostname) :
    ¬ (evaluateEgressPolicy host targetUrl = none →
      ∀ parts ∈ host.parseUrl targetUrl, ¬ SpellsInternal host parts.hostname) :=
  fun hsound => hsound hpassed parts hparts ⟨urlHost, hinternal, hhostname⟩

/-- Internal hosts of each kind are let through. -/
theorem internal_hosts_let_through :
    ¬ (evaluateEgressPolicy internalUrls "http://[::1]/" = none →
        ∀ parts ∈ internalUrls.parseUrl "http://[::1]/",
          ¬ SpellsInternal internalUrls parts.hostname) ∧
    ¬ (evaluateEgressPolicy internalUrls "http://172.16.0.1/" = none →
        ∀ parts ∈ internalUrls.parseUrl "http://172.16.0.1/",
          ¬ SpellsInternal internalUrls parts.hostname) ∧
    ¬ (evaluateEgressPolicy internalUrls "http://0.0.0.0/" = none →
        ∀ parts ∈ internalUrls.parseUrl "http://0.0.0.0/",
          ¬ SpellsInternal internalUrls parts.hostname) ∧
    ¬ (evaluateEgressPolicy internalUrls "http://localhost./" = none →
        ∀ parts ∈ internalUrls.parseUrl "http://localhost./",
          ¬ SpellsInternal internalUrls parts.hostname) := by
  refine ⟨?_, ?_, ?_, ?_⟩
  · exact not_sound_of_passed (.ipv6 ⟨[0, 0, 0, 0, 0, 0, 0, 1], rfl⟩) (by decide) rfl (by decide)
      (by decide)
  · exact not_sound_of_passed (.ipv4 ⟨172, 16, 0, 1⟩) (by decide) rfl (by decide) (by decide)
  · exact not_sound_of_passed (.ipv4 ⟨0, 0, 0, 0⟩) (by decide) rfl (by decide) (by decide)
  · exact not_sound_of_passed (.name "localhost.") (by decide) rfl (by decide) (by decide)

end AgentBigBrain.Orchestration
