import ServiceDiagram.Proofs.Payload.Link
import ServiceDiagram.Proofs.Payload.Lossless
import ServiceDiagram.Proofs.Url.Extended
import ServiceDiagram.Settings.Check

/-!
# Links to checked servers

A server is checked on its own: that its address, without the margins of the text, is one of `http` or
`https`.  A link is the text itself, without its last slashes, with a path behind it.  So a link has an
address like its server's exactly if the end of the server's address is kept (`Url.KeepsEnd`), and its
payload is in its path exactly if the server has no query and no fragment (`link_usable_iff`).
-/

namespace ServiceDiagram

namespace Link

open Payload

variable {c : Char} {deflate : Bytes → Bytes} {variant : Variant} {text : String}

/-- what a link has behind the address of its server -/
def part (deflate : Bytes → Bytes) (variant : Variant) (text : String) : List Char :=
  '/' :: variant.path.toList ++ '/' :: ("~1".toList ++ (payloadBy deflate text).toList)

theorem exists_slashes (server : String) :
    ∃ slashes, (∀ c ∈ slashes, c = '/') ∧ server.toList = (base server).toList ++ slashes := by
  refine ⟨server.toList.rtakeWhile (· == '/'), fun c hc => ?_, ?_⟩
  · have hslash : (c == '/') = true := List.mem_rtakeWhile_imp (p := (· == '/')) hc
    exact beq_iff_eq.mp hslash
  · have hbase : (base server).toList = server.toList.rdropWhile (· == '/') := String.toList_ofList
    rw [hbase, List.rdropWhile_append_rtakeWhile]

theorem visible_of_inAlphabet (h : InAlphabet c) : Url.isMargin c = false ∧ Url.isPathChar c = true := by
  have hascii : ∀ n < 128, InAlphabet (Char.ofNat n) →
      Url.isMargin (Char.ofNat n) = false ∧ Url.isPathChar (Char.ofNat n) = true := by
    decide
  have hc := hascii c.toNat h.toNat_lt
  rw [Char.ofNat_toNat] at hc
  exact hc h

theorem visible_of_mem_part (h : c ∈ part deflate variant text) :
    Url.isMargin c = false ∧ Url.isPathChar c = true := by
  have hmarks : ('/' :: variant.path.toList ++ '/' :: "~1".toList).all
      (fun c => !Url.isMargin c && Url.isPathChar c) = true := by
    cases variant <;> decide
  have hpart : part deflate variant text =
      ('/' :: variant.path.toList ++ '/' :: "~1".toList) ++ (payloadBy deflate text).toList := by
    rw [part, List.append_assoc]
    rfl
  rw [hpart, List.mem_append] at h
  rcases h with h | h
  · have hc := List.all_eq_true.mp hmarks c h
    rwa [Bool.and_eq_true, Bool.not_eq_true'] at hc
  · rw [toList_payloadBy] at h
    exact visible_of_inAlphabet (encode64_inAlphabet h)

/-- **What a link has behind its server's address is a path.** -/
theorem isTail_part : Url.IsTail (part deflate variant text) :=
  ⟨rfl, fun _ h => (visible_of_mem_part h).1, fun _ h => (visible_of_mem_part h).2⟩

end Link

namespace Settings

open Url (IsHosted KeepsEnd LiesInPath strip)

variable {field server value : String}

theorem toOption_eq_some_iff {check : Check} : check.toOption = some () ↔ check = .ok () := by
  cases check with
  | error fault => exact ⟨nofun, nofun⟩
  | ok u => exact ⟨fun _ => rfl, fun _ => rfl⟩

theorem schemeOf_eq_ok_iff {scheme : String} :
    Url.schemeOf value = .ok scheme ↔
      ∃ rest, Url.scheme? (strip value.toList) = some (scheme, rest) ∧
        Url.checkRest (.ofScheme scheme) rest = .ok () := by
  unfold Url.schemeOf
  cases hread : Url.scheme? (strip value.toList) with
  | none => exact ⟨nofun, fun ⟨_, hsome, _⟩ => nomatch hsome⟩
  | some found =>
    obtain ⟨scheme', rest⟩ := found
    constructor
    · intro h
      have hmap : (Url.checkRest (.ofScheme scheme') rest).map (fun _ => scheme') = .ok scheme := h
      cases hrest : Url.checkRest (.ofScheme scheme') rest with
      | error fault =>
        rw [hrest] at hmap
        cases hmap
      | ok u =>
        rw [hrest] at hmap
        cases hmap
        exact ⟨rest, rfl, hrest⟩
    · rintro ⟨_, hsome, hrest⟩
      obtain ⟨rfl, rfl⟩ := Prod.mk.inj (Option.some.inj hsome)
      show (Url.checkRest (.ofScheme scheme') rest).map (fun _ => scheme') = .ok scheme'
      rw [hrest]
      rfl

/-- **A checked server is an address of `http` or `https`.** -/
theorem checkServer_eq_ok_iff : checkServer field value = .ok () ↔ IsHosted (strip value.toList) := by
  have hfamily : ∀ scheme, scheme = "http" ∨ scheme = "https" → Url.Family.ofScheme scheme = .hosted := by
    rintro scheme (rfl | rfl) <;> decide
  unfold checkServer
  by_cases hempty : value = ""
  · rw [if_pos (String.isEmpty_iff.mpr hempty), hempty]
    exact ⟨nofun, fun ⟨_, _, hread, _⟩ => nomatch hread⟩
  · rw [if_neg fun h => hempty (String.isEmpty_iff.mp h)]
    constructor
    · intro h
      cases hread : Url.schemeOf value with
      | error fault =>
        rw [hread] at h
        cases h
      | ok scheme =>
        simp only [hread] at h
        split at h
        · next hscheme =>
          obtain ⟨rest, hsome, hrest⟩ := schemeOf_eq_ok_iff.mp hread
          rw [hfamily scheme hscheme] at hrest
          exact ⟨scheme, rest, hsome, hscheme, hrest⟩
        · cases h
    · rintro ⟨scheme, rest, hsome, hscheme, hok⟩
      have hread : Url.schemeOf value = .ok scheme := by
        refine schemeOf_eq_ok_iff.mpr ⟨rest, hsome, ?_⟩
        rw [hfamily scheme hscheme]
        exact hok
      simp only [hread]
      exact if_pos hscheme

/-- **A link is accepted like its server exactly if the end of the server's address is kept, and its
payload lies in its path exactly if the server has neither a query nor a fragment**, whatever drawing of
whatever text it leads to. -/
theorem link_usable_iff (h : checkServer field server = .ok ()) (field' : String)
    (deflate : Bytes → Bytes) (variant : Variant) (text : String) :
    (checkServer field' (Link.urlBy deflate server variant text) = .ok () ↔ KeepsEnd server.toList) ∧
      (LiesInPath (Link.part deflate variant text)
          (strip (Link.urlBy deflate server variant text).toList) ↔
        '?' ∉ server.toList ∧ '#' ∉ server.toList) := by
  obtain ⟨slashes, hslashes, hserver⟩ := Link.exists_slashes server
  have hlink : (Link.urlBy deflate server variant text).toList =
      (Link.base server).toList ++ Link.part deflate variant text := Link.toList_urlBy ..
  have hhosted := checkServer_eq_ok_iff.mp h
  rw [hserver] at hhosted ⊢
  rw [checkServer_eq_ok_iff, hlink]
  exact hhosted.extended_iff hslashes Link.isTail_part

/-- a server with a number and a path -/
theorem link_usable_local :
    checkServer "renderer.server" "http://localhost:8080/plantuml/" = .ok () ∧
      checkServer "renderer.server"
        (Link.url "http://localhost:8080/plantuml/" .picture "A") = .ok () ∧
      LiesInPath (Link.part Zlib.deflate .picture "A")
        (strip (Link.url "http://localhost:8080/plantuml/" .picture "A").toList) := by
  have hserver : checkServer "renderer.server" "http://localhost:8080/plantuml/" = .ok () :=
    toOption_eq_some_iff.mp (by decide +kernel)
  have hlink := link_usable_iff hserver "renderer.server" Zlib.deflate .picture "A"
  exact ⟨hserver, hlink.1.mpr (by decide +kernel), hlink.2.mpr (by decide)⟩

/-- blanks behind a host, and a query -/
theorem link_unusable :
    (checkServer "renderer.server" "http://localhost " = .ok () ∧
        checkServer "renderer.server" (Link.url "http://localhost " .picture "A") ≠ .ok ()) ∧
      checkServer "renderer.server" "http://localhost?a" = .ok () ∧
        Url.path (strip (Link.url "http://localhost?a" .picture "A").toList) = [] := by
  simp only [ne_eq, ← toOption_eq_some_iff]
  decide +kernel

end Settings

end ServiceDiagram
