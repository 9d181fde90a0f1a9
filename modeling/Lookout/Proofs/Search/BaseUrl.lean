/-
The one form of a search address, and of an index in it.

An address loses the white space around it, and then the slashes at its end.  Since a slash is no
white space, the slashes stand at the end once the white space is gone, and what is left of a padded
address is the address that was padded.  The scheme that it is given, unless it has one, neither
begins with white space nor is the end of the address, so what comes of this is in that form.

Nothing is left of an address exactly if it is slashes with white space around them.
-/
import Lookout.Proofs.Text.Trimming
import Lookout.Search.Client

namespace Lookout

/-- A text begins with another one. -/
theorem Text.toList_prefix_iff {front s : String} :
    front.toList <+: s.toList ↔ ∃ rest, s = front ++ rest := by
  constructor
  · rintro ⟨rest, hrest⟩
    refine ⟨String.ofList rest, String.toList_inj.mp ?_⟩
    rw [String.toList_append, String.toList_ofList, hrest]
  · rintro ⟨rest, rfl⟩
    rw [String.toList_append]
    exact List.prefix_append ..

namespace SearchClient

/-! ### Slashes -/

/-- So many slashes. -/
def slashes (k : Nat) : String :=
  String.ofList (List.replicate k '/')

theorem toList_slashes (k : Nat) : (slashes k).toList = List.replicate k '/' :=
  String.toList_ofList

theorem isSlash_of_mem_slashes {k : Nat} {c : Char} (h : c ∈ (slashes k).toList) :
    isSlash c = true := by
  rw [toList_slashes] at h
  rw [List.eq_of_mem_replicate h]
  rfl

theorem isBlank_slash : isBlank '/' = false := by
  decide

/-! ### Addresses -/

/-- An address has a scheme of its own. -/
def HasScheme (address : String) : Prop :=
  ∃ rest, address = "http://" ++ rest ∨ address = "https://" ++ rest

theorem hasScheme_iff {address : String} : hasScheme address.toList = true ↔ HasScheme address := by
  unfold hasScheme HasScheme
  rw [Bool.or_eq_true, List.isPrefixOf_iff_prefix, List.isPrefixOf_iff_prefix,
    Text.toList_prefix_iff, Text.toList_prefix_iff, exists_or]

/-- An address with a scheme: its own one, or that of unprotected requests. -/
def withScheme (address : String) : String :=
  if hasScheme address.toList then address else "http://" ++ address

theorem withScheme_of_hasScheme {address : String} (h : HasScheme address) :
    withScheme address = address :=
  if_pos (hasScheme_iff.mpr h)

theorem hasScheme_withScheme (address : String) : HasScheme (withScheme address) := by
  by_cases h : hasScheme address.toList = true
  · rw [withScheme_of_hasScheme (hasScheme_iff.mp h)]
    exact hasScheme_iff.mp h
  · exact ⟨address, Or.inl (if_neg h)⟩

/-- An address from which nothing is taken: there is no white space around it, and no slash at its
end. -/
structure Stripped (address : String) : Prop where
  ne_empty : address ≠ ""
  bare : Text.Bare isBlank address.toList
  unslashed : address.toList.getLast? ≠ some '/'

namespace Stripped

variable {address before behind : String}

theorem toList_ne_nil (h : Stripped address) : address.toList ≠ [] := by
  simpa using h.ne_empty

theorem not_isSlash (h : Stripped address) (c : Char) (hc : address.toList.getLast? = some c) :
    isSlash c = false := by
  have hne : c ≠ '/' := fun heq => h.unslashed (heq ▸ hc)
  simp [isSlash, hne]

theorem withScheme (h : Stripped address) : Stripped (withScheme address) := by
  by_cases hscheme : hasScheme address.toList = true
  · rw [withScheme_of_hasScheme (hasScheme_iff.mp hscheme)]
    exact h
  · have htext : (SearchClient.withScheme address).toList = "http://".toList ++ address.toList := by
      rw [SearchClient.withScheme, if_neg hscheme, String.toList_append]
    have hlast : (SearchClient.withScheme address).toList.getLast? = address.toList.getLast? := by
      rw [htext, List.getLast?_append_of_ne_nil _ h.toList_ne_nil]
    refine ⟨fun hempty => ?_, ⟨fun c hc => ?_, fun c hc => ?_⟩, ?_⟩
    · rw [hempty] at htext
      cases htext
    · rw [htext] at hc
      cases hc
      decide
    · exact h.bare.last c (hlast ▸ hc)
    · rw [hlast]
      exact h.unslashed

/-- With slashes behind it an address still has no white space around it. -/
theorem bare_append_slashes (h : Stripped address) (k : Nat) :
    Text.Bare isBlank (address.toList ++ (slashes k).toList) where
  head := by
    intro c hc
    rw [List.head?_append_of_ne_nil _ h.toList_ne_nil] at hc
    exact h.bare.head c hc
  last := by
    intro c hc
    rw [toList_slashes] at hc
    cases k with
    | zero =>
        rw [List.replicate_zero, List.append_nil] at hc
        exact h.bare.last c hc
    | succ k =>
        rw [List.replicate_succ', ← List.append_assoc, List.getLast?_concat] at hc
        cases hc
        exact isBlank_slash

/-- **What a padded address comes to does not depend on the padding.** -/
theorem baseUrl?_padded (h : Stripped address) (hbefore : Text.isAllBlank before = true)
    (hbehind : Text.isAllBlank behind = true) (k : Nat) :
    baseUrl? (before ++ address ++ slashes k ++ behind)
      = some (SearchClient.withScheme address) := by
  have htext : (before ++ address ++ slashes k ++ behind).toList
      = before.toList ++ (address.toList ++ (slashes k).toList) ++ behind.toList := by
    simp
  have hblank := (h.bare_append_slashes k).trim_append (Text.isAllBlank_iff.mp hbefore)
    (Text.isAllBlank_iff.mp hbehind)
  have hslash : Text.trimEnd isSlash (address.toList ++ (slashes k).toList) = address.toList :=
    Text.trimEnd_append_of_all (fun c hc => isSlash_of_mem_slashes hc) h.not_isSlash
  have hsome : address.toList.isEmpty = false := by simpa using h.ne_empty
  unfold baseUrl?
  rw [htext, hblank, hslash]
  simp only [hsome, Bool.false_eq_true, if_false, Option.some.injEq]
  unfold SearchClient.withScheme
  by_cases hscheme : hasScheme address.toList = true
  · rw [if_pos hscheme, if_pos hscheme, String.ofList_toList]
  · rw [if_neg hscheme, if_neg hscheme, String.ofList_append, String.ofList_toList,
      String.ofList_toList]

theorem baseUrl?_eq (h : Stripped address) :
    baseUrl? address = some (SearchClient.withScheme address) := by
  have hempty : Text.isAllBlank "" = true := rfl
  simpa [slashes] using h.baseUrl?_padded hempty hempty 0

end Stripped

/-! ### Addresses of which nothing is left -/

/-- An address is slashes, at least one, with white space around them. -/
def OnlySlashes (address : String) : Prop :=
  ∃ before behind k, Text.isAllBlank before = true ∧ Text.isAllBlank behind = true ∧ 0 < k ∧
    address = before ++ slashes k ++ behind

/-- A text of slashes is so many slashes. -/
theorem ofList_eq_slashes {cs : List Char} (h : ∀ c ∈ cs, isSlash c = true) :
    String.ofList cs = slashes cs.length := by
  have hall : ∀ c ∈ cs, c = '/' := fun c hc => by simpa [isSlash] using h c hc
  exact congrArg String.ofList (List.eq_replicate_of_mem hall)

theorem trim_onlySlashes {address : String} : OnlySlashes address ↔
    Text.trim isBlank address.toList ≠ [] ∧
      ∀ c ∈ Text.trim isBlank address.toList, isSlash c = true := by
  constructor
  · rintro ⟨before, behind, k, hbefore, hbehind, hk, rfl⟩
    have hbare : Text.Bare isBlank (slashes k).toList := by
      refine Text.bare_of_forall fun c hc => ?_
      rw [toList_slashes] at hc
      rw [List.eq_of_mem_replicate hc]
      exact isBlank_slash
    rw [String.toList_append, String.toList_append, hbare.trim_append
      (Text.isAllBlank_iff.mp hbefore) (Text.isAllBlank_iff.mp hbehind)]
    refine ⟨?_, fun c hc => isSlash_of_mem_slashes hc⟩
    simpa [toList_slashes] using Nat.ne_of_gt hk
  · rintro ⟨hne, hall⟩
    obtain ⟨before, behind, hbefore, hbehind, htext⟩ := Text.exists_trim isBlank address.toList
    refine ⟨String.ofList before, String.ofList behind, _, ?_, ?_,
      List.length_pos_iff.mpr hne, ?_⟩
    · rw [Text.isAllBlank_iff, String.toList_ofList]
      exact hbefore
    · rw [Text.isAllBlank_iff, String.toList_ofList]
      exact hbehind
    · rw [← ofList_eq_slashes hall, ← String.ofList_append, ← String.ofList_append, ← htext,
        String.ofList_toList]

-- The quantifier over characters is written as a test of the list: to go over all characters that
-- there are would be another way to decide it.
instance (address : String) : Decidable (OnlySlashes address) :=
  decidable_of_iff
    (Text.trim isBlank address.toList ≠ [] ∧ (Text.trim isBlank address.toList).all isSlash = true)
    (by rw [trim_onlySlashes, List.all_eq_true])

theorem baseUrl?_eq_none {address : String} :
    baseUrl? address = none ↔ Text.isAllBlank address = true ∨ OnlySlashes address := by
  have hnone : baseUrl? address = none ↔
      ∀ c ∈ Text.trim isBlank address.toList, isSlash c = true := by
    rw [← Text.trimEnd_eq_nil, ← List.isEmpty_iff]
    unfold baseUrl?
    dsimp only
    split
    · case isTrue h => exact iff_of_true rfl h
    · case isFalse h => exact iff_of_false (Option.some_ne_none _) h
  have hblank : Text.isAllBlank address = true ↔ Text.trim isBlank address.toList = [] :=
    Text.isAllBlank_iff.trans Text.trim_eq_nil.symm
  rw [hnone, trim_onlySlashes, hblank]
  constructor
  · intro h
    by_cases hnil : Text.trim isBlank address.toList = []
    · exact Or.inl hnil
    · exact Or.inr ⟨hnil, h⟩
  · rintro (hnil | ⟨-, h⟩)
    · rw [hnil]
      exact fun c hc => (List.not_mem_nil hc).elim
    · exact h

theorem new?_eq_none {address : String} {timeout : Duration} : new? address timeout = none ↔
    Text.isAllBlank address = true ∨ OnlySlashes address := by
  rw [new?, Option.map_eq_none_iff, baseUrl?_eq_none]

/-! ### The address of an index -/

theorem searchUrl_padded (client : SearchClient) {index : String}
    (h : Text.Bare isSlash index.toList) (m n : Nat) :
    client.searchUrl (slashes m ++ index ++ slashes n)
      = client.baseUrl ++ "/" ++ index ++ "/_search" := by
  unfold searchUrl
  rw [String.toList_append, String.toList_append, h.trim_append
    (fun c hc => isSlash_of_mem_slashes hc) (fun c hc => isSlash_of_mem_slashes hc),
    String.ofList_toList]

theorem Stripped.ne_append_slash {address : String} (h : Stripped address) (front : String) :
    address ≠ front ++ "/" := by
  rintro rfl
  refine h.unslashed ?_
  rw [String.toList_append]
  exact List.getLast?_concat ..

/-- **Every padding of an address comes to one base address, and every padding of an index to one
address below it.**  The base address is that of the address itself; it has a scheme and no slash at
its end, it is the address if that has a scheme, and it is its own base address.  The address of a
search is the base address, a slash, the index, and the search. -/
theorem padding_vanishes {address : String} (h : Stripped address) :
    ∃ base : String,
      (∀ (before behind : String) (k : Nat) (timeout : Duration),
        Text.isAllBlank before = true → Text.isAllBlank behind = true →
        new? (before ++ address ++ slashes k ++ behind) timeout = some ⟨base, timeout⟩) ∧
      (∀ timeout, new? address timeout = some ⟨base, timeout⟩) ∧
      HasScheme base ∧ (∀ front, base ≠ front ++ "/") ∧ (HasScheme address → base = address) ∧
      (∀ timeout, new? base timeout = some ⟨base, timeout⟩) ∧
      ∀ (client : SearchClient) (index : String), Text.Bare isSlash index.toList → ∀ m n,
        client.searchUrl (slashes m ++ index ++ slashes n) = client.searchUrl index ∧
          client.searchUrl index = client.baseUrl ++ "/" ++ index ++ "/_search" := by
  refine ⟨withScheme address, fun before behind k timeout hbefore hbehind => ?_, fun timeout => ?_,
    hasScheme_withScheme address, h.withScheme.ne_append_slash, withScheme_of_hasScheme,
    fun timeout => ?_, fun client index hindex m n => ?_⟩
  · rw [new?, h.baseUrl?_padded hbefore hbehind k]
    rfl
  · rw [new?, h.baseUrl?_eq]
    rfl
  · rw [new?, h.withScheme.baseUrl?_eq,
      withScheme_of_hasScheme (hasScheme_withScheme address)]
    rfl
  · have hself : client.searchUrl index = client.baseUrl ++ "/" ++ index ++ "/_search" := by
      simpa [slashes] using client.searchUrl_padded hindex 0 0
    exact ⟨(client.searchUrl_padded hindex m n).trans hself.symm, hself⟩

/-- Slashes in front of an address are part of it, and so are slashes and white space inside it. -/
theorem padding_vanishes_odd : Stripped "/es //x" ∧ Text.Bare isSlash "a//b".toList ∧
    ∃ client, new? ("\u2003\t" ++ "/es //x" ++ slashes 2 ++ "\n") (.ofSeconds 1) = some client ∧
      client.baseUrl = "http:///es //x" ∧
      new? client.baseUrl (.ofSeconds 1) = some client ∧
      client.searchUrl (slashes 1 ++ "a//b" ++ slashes 3) = "http:///es //x/a//b/_search" := by
  have hstripped : Stripped "/es //x" :=
    ⟨by decide +kernel, by decide +kernel, by decide +kernel⟩
  have hindex : Text.Bare isSlash "a//b".toList := by decide +kernel
  obtain ⟨base, hpadded, hself, -, -, -, hfixed, hurl⟩ := padding_vanishes hstripped
  have hbase : base = "http:///es //x" := by
    have hknown : new? "/es //x" (.ofSeconds 1) = some ⟨"http:///es //x", .ofSeconds 1⟩ := by
      decide +kernel
    exact congrArg baseUrl (Option.some.inj ((hself _).symm.trans hknown))
  obtain ⟨hslashes, hindexed⟩ := hurl ⟨base, .ofSeconds 1⟩ "a//b" hindex 1 3
  refine ⟨hstripped, hindex, ⟨base, .ofSeconds 1⟩,
    hpadded _ _ 2 _ (by decide +kernel) (by decide +kernel), hbase, hfixed _, ?_⟩
  rw [hslashes, hindexed, hbase]
  decide +kernel

end SearchClient

end Lookout
