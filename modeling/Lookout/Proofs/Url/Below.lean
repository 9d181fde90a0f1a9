/-
Reading an address that is put together from a host and a path.

The reading of an address looks for the end of the host before it looks at the path, and for the
end of the path before it looks at its steps.  So an address put together from a text that writes a
host and some text behind a slash is read as that host, whatever stands behind the slash; and a last
part of a path that is no step stays the last part of it, whatever stands in front of it.
-/
import Lookout.Http.Request
import Lookout.Proofs.Text.Trimming

namespace Lookout

/-- Nothing is no host. -/
theorem Host.ofText?_nil : Host.ofText? true [] = none := by
  decide +kernel

/-- A host that has a name has one that is not empty. -/
theorem Host.ofText?_ne_empty {cs : List Char} : Host.ofText? true cs ≠ some (.name "") := by
  intro h
  unfold Host.ofText? at h
  split at h
  · unfold ofBracketed? at h
    split at h
    · obtain ⟨pieces, -, hpieces⟩ := Option.map_eq_some_iff.mp h
      cases hpieces
    · cases h
  · simp only [Bool.not_true, Bool.false_eq_true, if_false] at h
    obtain ⟨decoded, -, h⟩ := Option.bind_eq_some_iff.mp h
    obtain ⟨ascii, -, h⟩ := Option.bind_eq_some_iff.mp h
    split at h
    · cases h
    · case isFalse hascii =>
      split at h
      · obtain ⟨n, -, hn⟩ := Option.map_eq_some_iff.mp h
        cases hn
      · have hname := Host.name.inj (Option.some.inj h)
        simp_all

namespace Url

/-! ### The characters of an address -/

/-- Whether a character counts: tabs and line breaks in an address do not. -/
def counts (c : Char) : Bool :=
  c ≠ '\t' && c ≠ '\n' && c ≠ '\r'

/-- What does not count is white space. -/
theorem counts_of_not_blank {c : Char} (h : isBlank c = false) : counts c = true := by
  have hne : ∀ d : Char, isBlank d = true → c ≠ d := by
    rintro d hd rfl
    rw [h] at hd
    cases hd
  simp [counts, hne '\t' rfl, hne '\n' rfl, hne '\r' rfl]

/-- Whether a character is left out where it stands around an address. -/
def isOuter (c : Char) : Bool :=
  c.toNat ≤ 0x20

/-- Whether a character stands in a path, and does not begin what follows it. -/
def staysInPath (c : Char) : Bool :=
  c ≠ '?' && c ≠ '#'

/-- The start of a text without separators ends where its first separator stands. -/
theorem takeWhile_append_of_all {α : Type} {p : α → Bool} {xs ys : List α} (hxs : ∀ x ∈ xs, p x)
    (hys : ∀ y, ys.head? = some y → p y = false) : (xs ++ ys).takeWhile p = xs := by
  rw [List.takeWhile_append_of_pos hxs]
  cases ys with
  | nil => simp
  | cons y ys => simp [hys y rfl]

/-- A text with a separator ends there, whatever follows it. -/
theorem takeWhile_append_of_not_all {α : Type} {p : α → Bool} {xs : List α}
    (hxs : ¬ ∀ x ∈ xs, p x = true) (ys : List α) : (xs ++ ys).takeWhile p = xs.takeWhile p := by
  induction xs with
  | nil => exact absurd (fun x hx => by cases hx) hxs
  | cons x xs ih =>
      by_cases hx : p x = true
      · have hrest : ¬ ∀ x ∈ xs, p x = true := fun h => hxs (List.forall_mem_cons.mpr ⟨hx, h⟩)
        simp [hx, ih hrest]
      · simp [hx]

/-- A text that begins and ends with a character of the address loses nothing but tabs and
breaks. -/
theorem cleaned_of_ends {cs : List Char} (hfirst : ∀ c, cs.head? = some c → isOuter c = false)
    (hlast : ∀ c, cs.getLast? = some c → isOuter c = false) : cleaned cs = cs.filter counts := by
  have hstart : cs.dropWhile isOuter = cs := Text.dropWhile_eq_self hfirst
  have hend : cs.reverse.dropWhile isOuter = cs.reverse :=
    Text.dropWhile_eq_self (by simpa using hlast)
  show (((cs.dropWhile isOuter).reverse.dropWhile isOuter).reverse).filter counts = _
  rw [hstart, hend, List.reverse_reverse]

/-! ### The steps of a path -/

/-- The folders that parts of a path lead to from some folders on, the innermost first. -/
def descend (before : List String) : List (List Char) → List String
  | [] => before
  | part :: rest =>
    if isDoubleDot part then descend before.tail rest
    else if isSingleDot part then descend before rest
    else descend (String.ofList (Percent.encode Percent.inPath part) :: before) rest

/-- A last part that is no step stays behind the folders that the parts before it lead to. -/
theorem walk_concat {last : List Char} (hdouble : isDoubleDot last = false)
    (hsingle : isSingleDot last = false) : ∀ (parts : List (List Char)) (before : List String),
    walk before (parts ++ [last])
      = (descend before parts).reverse ++ [String.ofList (Percent.encode Percent.inPath last)] := by
  intro parts
  induction parts with
  | nil =>
      intro before
      simp [walk, descend, hdouble, hsingle]
  | cons part rest ih =>
      intro before
      have hmore : (rest ++ [last]).isEmpty = false := by simp
      rw [List.cons_append, walk, descend, hmore]
      by_cases hpart : isDoubleDot part = true
      · simp only [hpart, if_true, Bool.false_eq_true, if_false]
        exact ih before.tail
      · by_cases hstay : isSingleDot part = true
        · simp only [hpart, hstay, if_true, Bool.false_eq_true, if_false]
          exact ih before
        · simp only [hpart, hstay, Bool.false_eq_true, if_false]
          exact ih _

/-- The path of some text and a last part behind a slash. -/
theorem readParts_concat {known : Bool} {last : List Char}
    (hlast : ∀ c ∈ last, isSlash known c = false) (hdouble : isDoubleDot last = false)
    (hsingle : isSingleDot last = false) (cs : List Char) :
    readParts known (cs ++ '/' :: last)
      = (descend [] (cs.splitOnP (isSlash known))).reverse
        ++ [String.ofList (Percent.encode Percent.inPath last)] := by
  have hslash : isSlash known '/' = true := rfl
  have hwhole : last.splitOnP (isSlash known) = [last] :=
    List.splitOnP_eq_singleton (by simpa using hlast)
  unfold readParts
  rw [List.splitOnP_append_cons _ _ hslash, hwhole]
  exact walk_concat hdouble hsingle _ []

/-! ### Slashes

No part of a path has a slash in it: the reading divides the path there, and nothing that it writes
in place of a character is one.  So the text of a path says what its parts are.
-/

/-- The parts between separators have no separator in them. -/
theorem not_of_mem_splitOnP {α : Type} {p : α → Bool} : ∀ {xs part : List α},
    part ∈ xs.splitOnP p → ∀ x ∈ part, p x = false := by
  intro xs
  induction xs with
  | nil =>
      intro part hpart
      rw [List.splitOnP_nil, List.mem_singleton] at hpart
      simp [hpart]
  | cons x xs ih =>
      intro part hpart
      rw [List.splitOnP_cons_eq_if_modifyHead] at hpart
      by_cases hx : p x = true
      · rw [if_pos hx] at hpart
        rcases List.mem_cons.mp hpart with rfl | hrest
        · simp
        · exact ih hrest
      · rw [if_neg hx] at hpart
        obtain ⟨first, rest, hsplit⟩ := List.exists_cons_of_ne_nil (List.splitOnP_ne_nil p xs)
        rw [hsplit, List.modifyHead_cons] at hpart
        rcases List.mem_cons.mp hpart with rfl | hrest
        · refine List.forall_mem_cons.mpr ⟨eq_false_of_ne_true hx, ih ?_⟩
          rw [hsplit]
          exact List.mem_cons_self
        · refine ih ?_
          rw [hsplit]
          exact List.mem_cons_of_mem _ hrest

theorem toUpper_digitChar_ne_slash (n : Nat) : (Nat.digitChar n).toUpper ≠ '/' := by
  by_cases hn : n < 16
  · have hdigits : ∀ k : Fin 16, (Nat.digitChar k).toUpper ≠ '/' := by decide
    exact hdigits ⟨n, hn⟩
  · have hstar : Nat.digitChar n = '*' := by
      unfold Nat.digitChar
      repeat rw [if_neg (by omega)]
    rw [hstar]
    decide

/-- Encoding loses no character. -/
theorem encode_ne_nil {isEncoded : Char → Bool} {cs : List Char} (h : cs ≠ []) :
    Percent.encode isEncoded cs ≠ [] := by
  obtain ⟨c, rest, rfl⟩ := List.exists_cons_of_ne_nil h
  have hbytes : utf8Bytes c ≠ [] := by
    unfold utf8Bytes
    dsimp only
    repeat' split
    all_goals simp
  obtain ⟨byte, bytes, hbytes⟩ := List.exists_cons_of_ne_nil hbytes
  unfold Percent.encode
  by_cases hc : isEncoded c = true
  · simp [hc, hbytes, Percent.encodeByte]
  · simp [hc]

/-- Encoding makes no slashes. -/
theorem slash_not_mem_encode {isEncoded : Char → Bool} {cs : List Char} (h : '/' ∉ cs) :
    '/' ∉ Percent.encode isEncoded cs := by
  intro hmem
  obtain ⟨c, hc, hmem⟩ := List.mem_flatMap.mp hmem
  split at hmem
  · obtain ⟨byte, -, hbyte⟩ := List.mem_flatMap.mp hmem
    have hne := toUpper_digitChar_ne_slash
    simp [Percent.encodeByte, (hne _).symm] at hbyte
  · rw [List.mem_singleton] at hmem
    exact h (hmem ▸ hc)

/-- Parts without a slash in any of them. -/
def SlashFree (parts : List String) : Prop :=
  ∀ part ∈ parts, '/' ∉ part.toList

theorem slashFree_walk : ∀ {parts : List (List Char)} {before : List String},
    (∀ part ∈ parts, '/' ∉ part) → SlashFree before → SlashFree (walk before parts) := by
  intro parts
  induction parts with
  | nil =>
      intro before _ hbefore part hpart
      exact hbefore part (List.mem_reverse.mp hpart)
  | cons part rest ih =>
      intro before hparts hbefore
      have hrest : ∀ part ∈ rest, '/' ∉ part := fun p hp => hparts p (List.mem_cons_of_mem _ hp)
      have hempty : ∀ {folders : List String}, SlashFree folders → SlashFree ("" :: folders) :=
        fun h => List.forall_mem_cons.mpr ⟨by simp, h⟩
      have htail : SlashFree before.tail := fun p hp => hbefore p (List.mem_of_mem_tail hp)
      unfold walk
      split
      · refine ih hrest ?_
        split
        · exact hempty htail
        · exact htail
      · split
        · refine ih hrest ?_
          split
          · exact hempty hbefore
          · exact hbefore
        · refine ih hrest (List.forall_mem_cons.mpr ⟨?_, hbefore⟩)
          rw [String.toList_ofList]
          exact slash_not_mem_encode (hparts part List.mem_cons_self)

theorem slashFree_readParts (known : Bool) (cs : List Char) : SlashFree (readParts known cs) := by
  refine slashFree_walk (fun part hpart hmem => ?_) (fun part hpart => by cases hpart)
  have hslash := not_of_mem_splitOnP hpart '/' hmem
  simp [isSlash] at hslash

/-- Parts with a slash before each are told apart by the slashes. -/
theorem splitOn_slashes : ∀ {parts : List String}, SlashFree parts →
    (parts.flatMap fun part => '/' :: part.toList).splitOn '/' = [] :: parts.map String.toList := by
  intro parts
  induction parts with
  | nil => exact fun _ => rfl
  | cons part rest ih =>
      intro hfree
      have hpart : '/' ∉ part.toList := hfree part List.mem_cons_self
      have hrest := ih fun p hp => hfree p (List.mem_cons_of_mem _ hp)
      have hfirst : ∀ cs : List Char, ('/' :: cs).splitOn '/' = [] :: cs.splitOn '/' := by
        intro cs
        show ([] ++ '/' :: cs).splitOn '/' = _
        exact List.splitOn_append_cons_self_of_not_mem List.not_mem_nil cs
      rw [List.flatMap_cons, List.cons_append, hfirst, List.map_cons]
      cases rest with
      | nil =>
          rw [List.flatMap_nil, List.append_nil, List.splitOn_eq_singleton hpart]
          rfl
      | cons next more =>
          rw [List.flatMap_cons, List.cons_append, hfirst] at hrest
          rw [List.flatMap_cons, List.cons_append,
            List.splitOn_append_cons_self_of_not_mem hpart, (List.cons.inj hrest).2]

/-- A path leads to the search in a part of it that is not empty. -/
def Searches (u : Url) (part : String) : Prop :=
  part ≠ "" ∧ u.pathText = "/" ++ part ++ "/_search"

/-- The text of a path with a host in front of it. -/
theorem toList_pathText {u : Url} {parts : List String} (hhost : u.host.isSome = true)
    (hpath : u.path = .parts parts) :
    u.pathText.toList = parts.flatMap fun part => '/' :: part.toList := by
  have hnone : u.host.isNone = false := by
    rw [← Option.not_isSome, hhost]
    rfl
  unfold pathText
  rw [hpath]
  simp only [hnone, Bool.false_and, Bool.false_eq_true, if_false, String.toList_join,
    List.flatMap_map, String.toList_append]
  rfl

/-- A path leads to the search in a part of it if the last of its parts says so, and the part is
what stands in front of that. -/
theorem searches_iff {u : Url} {parts : List String} (hhost : u.host.isSome = true)
    (hpath : u.path = .parts parts) (hfree : SlashFree parts) {part : String} :
    u.Searches part ↔ part ≠ "" ∧
      parts = (part.toList.splitOn '/').map String.ofList ++ ["_search"] := by
  have hsplit : ("/" ++ part ++ "/_search").toList.splitOn '/'
      = [] :: (part.toList.splitOn '/' ++ ["_search".toList]) := by
    have htext : ("/" ++ part ++ "/_search").toList
        = [] ++ '/' :: (part.toList ++ '/' :: "_search".toList) := by
      simp
    rw [htext, List.splitOn_append_cons_self_of_not_mem List.not_mem_nil,
      List.splitOn_append_cons_self]
    rfl
  have hparts : u.pathText.toList.splitOn '/' = [] :: parts.map String.toList := by
    rw [toList_pathText hhost hpath, splitOn_slashes hfree]
  refine and_congr_right fun _ => ⟨fun h => ?_, fun h => ?_⟩
  · rw [h, hsplit] at hparts
    have hlists := congrArg (List.map String.ofList) (List.cons.inj hparts).2
    simpa using hlists.symm
  · rw [h] at hparts
    have hlists : u.pathText.toList.splitOn '/'
        = ("/" ++ part ++ "/_search").toList.splitOn '/' := by
      rw [hparts, hsplit]
      simp
    have htext := congrArg (['/'].intercalate ·) hlists
    simp only [List.intercalate_splitOn] at htext
    exact String.toList_inj.mp htext

/-- A path leads to the search in some part of it if there are folders in front of the search, and
more than one without a name. -/
theorem exists_searches_iff {u : Url} {parts : List String} (hhost : u.host.isSome = true)
    (hpath : u.path = .parts parts) (hfree : SlashFree parts) :
    (∃ part, u.Searches part) ↔
      ∃ folders, parts = folders ++ ["_search"] ∧ folders ≠ [] ∧ folders ≠ [""] := by
  constructor
  · rintro ⟨part, hpart⟩
    obtain ⟨hne, hparts⟩ := (searches_iff hhost hpath hfree).mp hpart
    refine ⟨_, hparts, by simp [List.splitOn_ne_nil], fun hempty => hne ?_⟩
    have hsplit : part.toList.splitOn '/' = [[]] := by
      have hlists := congrArg (List.map String.toList) hempty
      simpa using hlists
    have htext : ['/'].intercalate (part.toList.splitOn '/') = part.toList :=
      List.intercalate_splitOn '/'
    rw [hsplit] at htext
    exact String.toList_eq_nil_iff.mp htext.symm
  · rintro ⟨folders, rfl, hnone, hempty⟩
    have hsplit : (['/'].intercalate (folders.map String.toList)).splitOn '/'
        = folders.map String.toList := by
      refine List.splitOn_intercalate '/' (fun cs hcs => ?_) (by simpa using hnone)
      obtain ⟨folder, hfolder, rfl⟩ := List.mem_map.mp hcs
      exact hfree folder (List.mem_append_left _ hfolder)
    refine ⟨String.ofList (['/'].intercalate (folders.map String.toList)),
      (searches_iff hhost hpath hfree).mpr ⟨fun hpart => hempty ?_, ?_⟩⟩
    · have hnil : ['/'].intercalate (folders.map String.toList) = [] := by
        simpa using congrArg String.toList hpart
      rw [hnil] at hsplit
      have hlists := congrArg (List.map String.ofList) hsplit
      simpa using hlists.symm
    · rw [String.toList_ofList, hsplit]
      simp

/-! ### The host -/

/-- A text writes a host, and a port unless that is left out.  Nothing in it is white space, ends a
host, or stands for a user. -/
structure WritesHost (address : String) (host : Host) (port : Option Nat) : Prop where
  plain : ∀ c ∈ address.toList,
    isBlank c = false ∧ endsAuthority true c = false ∧ c ≠ '@'
  reads : Host.ofText? true (cutHost false address.toList).1 = some host
  port : readPort? (cutHost false address.toList).2 = some port

namespace WritesHost

variable {address : String} {host : Host} {port : Option Nat}

/-- That a text is plain can be computed. -/
theorem plain_of_all {cs : List Char}
    (h : (cs.all fun c => !isBlank c && !endsAuthority true c && c != '@') = true) :
    ∀ c ∈ cs, isBlank c = false ∧ endsAuthority true c = false ∧ c ≠ '@' := by
  intro c hc
  have hplain := List.all_eq_true.mp h c hc
  simpa [and_assoc] using hplain

theorem hostText_ne_nil (h : WritesHost address host port) :
    (cutHost false address.toList).1 ≠ [] := by
  intro hnil
  have hreads := h.reads
  rw [hnil, Host.ofText?_nil] at hreads
  cases hreads

/-- The name of a host is not empty. -/
theorem host_ne (h : WritesHost address host port) : host ≠ .name "" := by
  rintro rfl
  exact Host.ofText?_ne_empty h.reads

theorem ne_nil (h : WritesHost address host port) : address.toList ≠ [] := by
  intro hnil
  have hhost := h.hostText_ne_nil
  rw [hnil] at hhost
  exact hhost rfl

theorem cutUserInfo (h : WritesHost address host port) : cutUserInfo address.toList = none := by
  have hall : ∀ c ∈ address.toList.reverse, decide (c ≠ '@') = true := by
    intro c hc
    simpa using (h.plain c (List.mem_reverse.mp hc)).2.2
  have hself : address.toList.reverse.takeWhile (fun c => decide (c ≠ '@'))
      = address.toList.reverse := by
    rw [← List.append_nil address.toList.reverse, List.takeWhile_append_of_pos hall]
    rfl
  unfold Url.cutUserInfo
  rw [hself]
  simp

end WritesHost

/-- The port of an address, unless it is the default one. -/
def shownPort (scheme : String) (port : Option Nat) : Option Nat :=
  if port = knownSchemes.lookup scheme then none else port

theorem cutTail_eq (cs : List Char) :
    cutTail cs = (cs.takeWhile staysInPath, cs.dropWhile staysInPath) :=
  rfl

/-- A slash belongs to the path that it stands in. -/
theorem cutTail_slash (cs : List Char) :
    cutTail ('/' :: cs) = ('/' :: (cutTail cs).1, (cutTail cs).2) :=
  rfl

/-- A path is cut where the first of its characters stands that begins what follows it. -/
theorem cutTail_append_of_all {cs : List Char} (hcs : ∀ c ∈ cs, staysInPath c = true)
    (ds : List Char) : cutTail (cs ++ ds) = (cs ++ (cutTail ds).1, (cutTail ds).2) := by
  rw [cutTail_eq, List.takeWhile_append_of_pos hcs, List.dropWhile_append_of_pos hcs]
  rfl

/-- What is read of an address behind its scheme: what a text writes that stands for the host, and
what stands behind the slash after it. -/
theorem readAuthority_below {address : String} {host : Host} {port : Option Nat}
    (h : WritesHost address host port) (cs : List Char) :
    readAuthority "http" (address.toList ++ '/' :: cs) = some
      { scheme := "http"
        user := ""
        password := none
        host := some host
        port := shownPort "http" port
        path := .parts (readParts true (cutTail cs).1)
        query := (readTail true (cutTail cs).2).1
        fragment := (readTail true (cutTail cs).2).2 } := by
  have hknown : isKnown "http" = true := by decide
  have hplain : ∀ c ∈ address.toList, (!endsAuthority true c) = true := by
    intro c hc
    simp [(h.plain c hc).2.1]
  have hfirst : ∀ c, ('/' :: cs).head? = some c → (!endsAuthority true c) = false := by
    intro c hc
    cases hc
    rfl
  have hpath : readPath true ('/' :: (cutTail cs).1) = .parts (readParts true (cutTail cs).1) :=
    rfl
  unfold readAuthority
  simp only [hknown, takeWhile_append_of_all hplain hfirst,
    Text.dropWhile_append_of_all hplain hfirst, h.cutUserInfo, cutTail_slash, hpath]
  simp [h.reads, h.port, h.hostText_ne_nil, shownPort]

/-- An address of a known scheme is read behind the slashes that follow its scheme. -/
theorem ofText?_known {text scheme : String} {rest : List Char}
    (hscheme : readScheme? (cleaned text.toList) = some (scheme, rest)) (hfile : scheme ≠ "file")
    (hknown : isKnown scheme = true) :
    ofText? text = readAuthority scheme (rest.dropWhile (isSlash true)) := by
  unfold ofText?
  rw [hscheme]
  show (if scheme = "file" then _ else if isKnown scheme = true then _ else _) = _
  rw [if_neg hfile, if_pos hknown]

/-- **An address put together from a text that writes a host, and some text behind a slash, is an
address of that host**, whatever the text behind the slash is, unless it ends in white space. -/
theorem ofText?_below {address text : String} {host : Host} {port : Option Nat}
    (h : WritesHost address host port) {cs : List Char}
    (hlast : ∀ c, ('/' :: cs).getLast? = some c → isOuter c = false)
    (htext : text.toList = "http://".toList ++ (address.toList ++ '/' :: cs)) :
    ofText? text = some
      { scheme := "http"
        user := ""
        password := none
        host := some host
        port := shownPort "http" port
        path := .parts (readParts true (cutTail (cs.filter Url.counts)).1)
        query := (readTail true (cutTail (cs.filter Url.counts)).2).1
        fragment := (readTail true (cutTail (cs.filter Url.counts)).2).2 } := by
  have hclean : cleaned text.toList
      = "http://".toList ++ (address.toList ++ '/' :: cs.filter Url.counts) := by
    have hfirst : ∀ c, text.toList.head? = some c → isOuter c = false := by
      intro c hc
      rw [htext] at hc
      cases hc
      rfl
    have hend : text.toList.getLast? = ('/' :: cs).getLast? := by
      rw [htext, List.getLast?_append, List.getLast?_append, List.getLast?_cons]
      rfl
    have haddress : ∀ c ∈ address.toList, Url.counts c = true :=
      fun c hc => counts_of_not_blank (h.plain c hc).1
    rw [cleaned_of_ends hfirst (hend ▸ hlast), htext, List.filter_append, List.filter_append,
      List.filter_eq_self.mpr haddress]
    rfl
  have hscheme : readScheme? (cleaned text.toList)
      = some ("http", '/' :: '/' :: (address.toList ++ '/' :: cs.filter Url.counts)) := by
    rw [hclean]
    rfl
  -- The host begins with no slash, so the slashes in front of it are the two of the scheme.
  obtain ⟨c, rest, hhead⟩ := List.exists_cons_of_ne_nil h.ne_nil
  have hc : isSlash true c = false := by
    have hplain := (h.plain c (by simp [hhead])).2.1
    simp [endsAuthority] at hplain
    exact hplain.1.1
  have hslash : isSlash true '/' = true := rfl
  rw [ofText?_known hscheme (by decide) (by decide), ← readAuthority_below h, hhead]
  simp [hslash, hc]

end Url

end Lookout
