/-
Where the search of an alert goes.

The address of a search is put together as text: the base address, a slash, the index without the
slashes around it, and `/_search`.  The text is then read as an address, and what the index is in
it is settled by the reading: a question mark or a number sign ends the path there, slashes divide
it, and dots are steps in it.  `searchParts` says which path comes of an index.

That an index is not blank is checked when an alert is built.  It says enough of an index that is
one name, whose search goes to that name; of an index of slashes or of dots it says nothing.
-/
import Lookout.Proofs.Alert.Loading
import Lookout.Proofs.Search.BaseUrl
import Lookout.Proofs.Url.Below

namespace Lookout

namespace SearchClient

open Url (WritesHost)

/-! ### The path that an index stands for -/

/-- An index without the slashes around it, as it stands in an address. -/
def indexText (index : String) : List Char :=
  (Text.trim isSlash index.toList).filter Url.counts

/-- The folders that an index leads to, the outermost first. -/
def indexFolders (index : String) : List String :=
  (Url.descend [] ((indexText index).splitOnP (Url.isSlash true))).reverse

/-- The path of the search in an index: the folders of the index and the search in them, unless
something in the index ends the path in front of that. -/
def searchParts (index : String) : List String :=
  if (indexText index).all Url.staysInPath then indexFolders index ++ ["_search"]
  else Url.readParts true ((indexText index).takeWhile Url.staysInPath)

/-- An index is one name, of characters that neither divide nor end a path, and is no step. -/
structure IsName (index : String) : Prop where
  whole : ∀ c ∈ index.toList, Url.isSlash true c = false ∧ Url.staysInPath c = true
  stays : Url.isSingleDot (indexText index) = false
  falls : Url.isDoubleDot (indexText index) = false

/-- The name of an index in an address. -/
def encodedName (index : String) : String :=
  String.ofList (Percent.encode Percent.inPath (indexText index))

/-- What is read of an index and the search behind it is the path of the search in the index. -/
theorem readParts_search (index : String) :
    Url.readParts true (Url.cutTail (indexText index ++ "/_search".toList)).1
      = searchParts index := by
  unfold searchParts
  split
  · case isTrue hwhole =>
    have hlast : ∀ c ∈ "_search".toList, Url.isSlash true c = false := by simp [Url.isSlash]
    rw [Url.cutTail_append_of_all (List.all_eq_true.mp hwhole)]
    show Url.readParts true (indexText index ++ '/' :: "_search".toList) = _
    rw [Url.readParts_concat hlast (by decide) (by decide)]
    rfl
  · case isFalse hcut =>
    rw [Url.cutTail_eq, Url.takeWhile_append_of_not_all (mt List.all_eq_true.mpr hcut)]

/-! ### The address and the request -/

variable {address : String} {host : Host} {port : Option Nat}

theorem slash_not_mem (h : WritesHost address host port) : '/' ∉ address.toList := by
  intro hmem
  have hplain := (h.plain '/' hmem).2.1
  simp [Url.endsAuthority, Url.isSlash] at hplain

theorem stripped_of_writesHost (h : WritesHost address host port) : Stripped address where
  ne_empty := by simpa using h.ne_nil
  bare := Text.bare_of_forall fun c hc => (h.plain c hc).1
  unslashed := fun hlast => slash_not_mem h (List.mem_of_getLast? hlast)

/-- A client can be made for every text that writes a host. -/
theorem new?_of_writesHost (h : WritesHost address host port) (timeout : Duration) :
    new? address timeout = some ⟨"http://" ++ address, timeout⟩ := by
  have hscheme : ¬ HasScheme address := by
    rintro ⟨rest, heq | heq⟩
    · exact slash_not_mem h (by simp [heq])
    · exact slash_not_mem h (by simp [heq])
  rw [new?, (stripped_of_writesHost h).baseUrl?_eq, withScheme,
    if_neg (mt hasScheme_iff.mp hscheme)]
  rfl

/-- The address of the search in an index. -/
def searchAddress (host : Host) (port : Option Nat) (index : String) : Url :=
  let tail := (Url.cutTail (indexText index ++ "/_search".toList)).2
  { scheme := "http"
    user := ""
    password := none
    host := some host
    port := Url.shownPort "http" port
    path := .parts (searchParts index)
    query := (Url.readTail true tail).1
    fragment := (Url.readTail true tail).2 }

theorem ofText?_searchUrl (h : WritesHost address host port) (timeout : Duration)
    (index : String) :
    Url.ofText? (searchUrl ⟨"http://" ++ address, timeout⟩ index)
      = some (searchAddress host port index) := by
  have htext : (searchUrl ⟨"http://" ++ address, timeout⟩ index).toList = "http://".toList
      ++ (address.toList ++ '/' :: (Text.trim isSlash index.toList ++ "/_search".toList)) := by
    simp [searchUrl]
  have hlast : ∀ c, ('/' :: (Text.trim isSlash index.toList ++ "/_search".toList)).getLast?
      = some c → Url.isOuter c = false := by
    intro c hc
    rw [List.getLast?_cons, List.getLast?_append] at hc
    cases hc
    rfl
  have hcounts : (Text.trim isSlash index.toList ++ "/_search".toList).filter Url.counts
      = indexText index ++ "/_search".toList := by
    rw [List.filter_append]
    rfl
  rw [Url.ofText?_below h hlast htext, hcounts, readParts_search]
  rfl

/-- The request of a search, if its address is one that a request can be sent to. -/
def searchRequest (url : Url) (body : Value) : HttpRequest :=
  ⟨"POST", url, [jsonHeader], body.display⟩

theorem build_search (h : WritesHost address host port) (timeout : Duration) (query : QuerySpec) :
    HttpRequest.build "POST" (searchUrl ⟨"http://" ++ address, timeout⟩ query.index) [jsonHeader]
      query.body.display
    = if HttpRequest.isSendable (searchAddress host port query.index) then
        .ok (searchRequest (searchAddress host port query.index) query.body)
      else .error (.invalidAddress (searchAddress host port query.index)) := by
  have hhost : host ≠ .name "" := h.host_ne
  have hnamed : HttpRequest.namesHost (searchAddress host port query.index) = true := by
    simp [HttpRequest.namesHost, searchAddress, hhost]
  have hbare : HttpRequest.splitUser (searchAddress host port query.index)
      = (searchAddress host port query.index, []) := rfl
  have hheaders : [jsonHeader].all HttpRequest.isHeader = true := by decide +kernel
  have hweb : HttpRequest.isWeb (searchAddress host port query.index) = true := rfl
  have hsent : [jsonHeader].map HttpRequest.sentHeader = [jsonHeader] := by decide +kernel
  unfold HttpRequest.build
  rw [ofText?_searchUrl h]
  simp only [hnamed, hbare, hheaders, hweb, hsent, Bool.not_true, Bool.false_eq_true, if_false,
    Bool.false_or, List.nil_append]
  by_cases hsend : HttpRequest.isSendable (searchAddress host port query.index) = true
  · simp [hsend, searchRequest]
  · simp [hsend]

/-- A query sends its request, and nothing else, if its address is one that a request can be sent
to; otherwise it sends nothing. -/
theorem requests_run (h : WritesHost address host port) (timeout : Duration) (net : Network)
    (query : QuerySpec) :
    (run ⟨"http://" ++ address, timeout⟩ net query).requests
      = if HttpRequest.isSendable (searchAddress host port query.index) then
          [searchRequest (searchAddress host port query.index) query.body]
        else [] := by
  have hbuild := build_search h timeout query
  unfold run
  dsimp only
  rw [hbuild]
  by_cases hsend : HttpRequest.isSendable (searchAddress host port query.index) = true
  · rw [if_pos hsend, if_pos hsend]
  · rw [if_neg hsend, if_neg hsend]

/-! ### The part of the path that is searched -/

theorem slashFree_searchParts (index : String) : Url.SlashFree (searchParts index) := by
  rw [← readParts_search]
  exact Url.slashFree_readParts true _

/-- A name has no slashes around it. -/
theorem indexText_of_isName {index : String} (h : IsName index) :
    indexText index = index.toList.filter Url.counts := by
  have hslash : ∀ c ∈ index.toList, isSlash c = false := by
    intro c hc
    have hwhole := (h.whole c hc).1
    simp [Url.isSlash] at hwhole
    simp [isSlash, hwhole]
  rw [indexText, (Text.bare_of_forall hslash).trim_eq_self]

/-- What stands in front of the search in the path of an index that is one name: that name. -/
theorem searchParts_of_isName {index : String} (h : IsName index) :
    searchParts index = [encodedName index, "_search"] := by
  have hsub : ∀ c ∈ indexText index, c ∈ index.toList := by
    rw [indexText_of_isName h]
    exact fun c hc => (List.mem_filter.mp hc).1
  have hwhole : (indexText index).all Url.staysInPath = true :=
    List.all_eq_true.mpr fun c hc => (h.whole c (hsub c hc)).2
  have hone : (indexText index).splitOnP (Url.isSlash true) = [indexText index] := by
    refine List.splitOnP_eq_singleton fun c hc => ?_
    simp [(h.whole c (hsub c hc)).1]
  rw [searchParts, if_pos hwhole, indexFolders, hone]
  simp [Url.descend, h.falls, h.stays, encodedName]

theorem encodedName_ne {index : String} (h : IsName index)
    (hblank : Text.isAllBlank index = false) : encodedName index ≠ "" := by
  obtain ⟨c, hc, hshown⟩ : ∃ c ∈ index.toList, isBlank c = false := by
    simpa [Text.isAllBlank] using hblank
  have htext : indexText index ≠ [] := by
    rw [indexText_of_isName h]
    exact List.ne_nil_of_mem (List.mem_filter.mpr ⟨hc, Url.counts_of_not_blank hshown⟩)
  intro hempty
  have hnil : Percent.encode Percent.inPath (indexText index) = [] := by
    simpa [encodedName] using congrArg String.toList hempty
  exact Url.encode_ne_nil htext hnil

theorem searches_encodedName (host : Host) (port : Option Nat) {index : String} (h : IsName index)
    (hblank : Text.isAllBlank index = false) :
    (searchAddress host port index).Searches (encodedName index) := by
  have hslash : '/' ∉ (encodedName index).toList :=
    slashFree_searchParts index _ (by rw [searchParts_of_isName h]; exact List.mem_cons_self)
  have hone : ((encodedName index).toList.splitOn '/').map String.ofList = [encodedName index] := by
    rw [List.splitOn_eq_singleton hslash]
    simp
  refine (Url.searches_iff rfl rfl (slashFree_searchParts index)).mpr ⟨encodedName_ne h hblank, ?_⟩
  rw [searchParts_of_isName h, hone]
  rfl

end SearchClient

/-! ### The index of an alert -/

/-- An alert that was built, or loaded from a file. -/
def AlertDefinition.Accepted (a : AlertDefinition) : Prop :=
  (∃ parts : AlertDefinition, parts.build = .ok a) ∨
    ∃ text alerts, loadAlerts text = .ok alerts ∧ a ∈ alerts

/-- No alert is accepted whose index is blank. -/
theorem AlertDefinition.Accepted.index_not_blank {a : AlertDefinition} (h : a.Accepted) :
    Text.isAllBlank a.search.index = false := by
  have hbuilt : ∃ parts : AlertDefinition, parts.build = .ok a := by
    rcases h with hbuilt | ⟨text, alerts, hload, ha⟩
    · exact hbuilt
    · obtain ⟨r, hr⟩ := mem_loadAlerts hload ha
      obtain ⟨actions, -, hbuild⟩ := bind_eq_ok hr
      exact ⟨_, mapError_eq_ok.mp hbuild⟩
  obtain ⟨parts, hbuild⟩ := hbuilt
  obtain ⟨hbuildable, rfl⟩ := AlertDefinition.build_eq_ok.mp hbuild
  exact hbuildable.index

open SearchClient in
/-- **Where the search of an accepted alert goes.**  Its address is one of the host that the search
address writes, with the path that `searchParts` says, and the search sends one request there, a
`POST` of the body of the query, unless it is an address that no request can be sent to.  The path
leads to the search in a part of it exactly if folders stand in front of the search, and more than
one without a name.  They always do for an index that is one name, and the part is that name. -/
theorem accepted_search {a : AlertDefinition} (ha : a.Accepted) {address : String} {host : Host}
    {port : Option Nat} (haddress : Url.WritesHost address host port) (timeout : Duration)
    (net : Network) :
    ∃ client url, new? address timeout = some client ∧
      Url.ofText? (client.searchUrl a.search.index) = some url ∧
      (url.scheme = "http" ∧ url.host = some host ∧ url.port = Url.shownPort "http" port ∧
        url.path = .parts (searchParts a.search.index)) ∧
      (client.run net a.search).requests
        = (if HttpRequest.isSendable url then [searchRequest url a.search.body] else []) ∧
      ((∃ part, url.Searches part) ↔ ∃ folders,
        searchParts a.search.index = folders ++ ["_search"] ∧ folders ≠ [] ∧ folders ≠ [""]) ∧
      (IsName a.search.index → url.Searches (encodedName a.search.index)) :=
  ⟨_, _, new?_of_writesHost haddress timeout, ofText?_searchUrl haddress timeout _,
    ⟨rfl, rfl, rfl, rfl⟩, requests_run haddress timeout net a.search,
    Url.exists_searches_iff rfl rfl (slashFree_searchParts _),
    fun hname => searches_encodedName host port hname ha.index_not_blank⟩

/-- An alert on an index. -/
def AlertDefinition.onIndex (index : String) : AlertDefinition :=
  ⟨"watched", 60, ⟨index, .map []⟩, "True", []⟩

/-- What is built is accepted, on the index that it was built with. -/
theorem AlertDefinition.accepted_onIndex (index : String)
    (h : (onIndex index).build.isOk = true) :
    ∃ a : AlertDefinition, a.Accepted ∧ a.search = ⟨index, .map []⟩ := by
  cases hbuild : (onIndex index).build with
  | error e =>
      rw [hbuild] at h
      cases h
  | ok a =>
      refine ⟨a, Or.inl ⟨_, hbuild⟩, ?_⟩
      obtain ⟨-, rfl⟩ := AlertDefinition.build_eq_ok.mp hbuild
      rfl

theorem Url.writesHost_upperCase : WritesHost "ES:9200" (.name "es") (some 9200) where
  plain := Url.WritesHost.plain_of_all (by decide +kernel)
  reads := by decide +kernel
  port := by decide +kernel

/-- An index with slashes around it and steps in it, on a host in upper case. -/
theorem accepted_search_winding : ∃ (a : AlertDefinition) (client : SearchClient) (url : Url),
    a.Accepted ∧ a.search.index = "/a/../mé ta/" ∧
      Url.WritesHost "ES:9200" (.name "es") (some 9200) ∧
      SearchClient.new? "ES:9200" (.ofSeconds 1) = some client ∧
      (client.run .unreachable a.search).requests
        = [SearchClient.searchRequest url a.search.body] ∧
      url.text = "http://es:9200/m%C3%A9%20ta/_search" ∧ ∃ part, url.Searches part := by
  obtain ⟨a, ha, hsearch⟩ := AlertDefinition.accepted_onIndex "/a/../mé ta/" (by decide +kernel)
  obtain ⟨client, url, hnew, hread, -, hrequests, hsearches, -⟩ :=
    accepted_search ha Url.writesHost_upperCase (.ofSeconds 1) .unreachable
  have hclient : client = ⟨"http://ES:9200", .ofSeconds 1⟩ := by
    have hknown : SearchClient.new? "ES:9200" (.ofSeconds 1)
        = some ⟨"http://ES:9200", .ofSeconds 1⟩ := by decide +kernel
    exact Option.some.inj (hnew.symm.trans hknown)
  have hurl : url = SearchClient.searchAddress (.name "es") (some 9200) "/a/../mé ta/" := by
    have hknown :
        Url.ofText? (SearchClient.searchUrl ⟨"http://ES:9200", .ofSeconds 1⟩ "/a/../mé ta/")
          = some (SearchClient.searchAddress (.name "es") (some 9200) "/a/../mé ta/") := by
      decide +kernel
    rw [hclient, hsearch] at hread
    exact Option.some.inj (hread.symm.trans hknown)
  have hsend : HttpRequest.isSendable url = true := by
    rw [hurl]
    decide +kernel
  have hpart : ∃ folders, SearchClient.searchParts a.search.index = folders ++ ["_search"] ∧
      folders ≠ [] ∧ folders ≠ [""] := by
    rw [hsearch]
    exact ⟨["m%C3%A9%20ta"], by decide +kernel, by decide, by decide⟩
  rw [if_pos hsend] at hrequests
  refine ⟨a, client, url, ha, by rw [hsearch], Url.writesHost_upperCase, hnew, hrequests, ?_,
    hsearches.mpr hpart⟩
  rw [hurl]
  decide +kernel

/-- An alert on an index is accepted, and its search sends one request, to a path that leads to the
search in no part of it. -/
def Astray (index path : String) : Prop :=
  ∃ (a : AlertDefinition) (client : SearchClient) (request : HttpRequest), a.Accepted ∧
    a.search.index = index ∧ SearchClient.new? "es:9200" (.ofSeconds 1) = some client ∧
    (client.run .unreachable a.search).requests = [request] ∧ request.url.pathText = path ∧
    ∀ part, ¬ request.url.Searches part

theorem astray_of_searchParts {index path : String}
    (hbuild : (AlertDefinition.onIndex index).build.isOk = true)
    (hsend : HttpRequest.isSendable
      (SearchClient.searchAddress (.name "es") (some 9200) index) = true)
    (hpath : (SearchClient.searchAddress (.name "es") (some 9200) index).pathText = path)
    (hparts : ∀ folders, SearchClient.searchParts index = folders ++ ["_search"] →
      folders = [] ∨ folders = [""]) : Astray index path := by
  have hhost : Url.WritesHost "es:9200" (.name "es") (some 9200) :=
    ⟨Url.WritesHost.plain_of_all (by decide +kernel), by decide +kernel, by decide +kernel⟩
  obtain ⟨a, ha, hsearch⟩ := AlertDefinition.accepted_onIndex index hbuild
  have hrequests := SearchClient.requests_run hhost (.ofSeconds 1) .unreachable a.search
  rw [hsearch, if_pos hsend] at hrequests
  refine ⟨a, _, SearchClient.searchRequest
      (SearchClient.searchAddress (.name "es") (some 9200) index) (.map []), ha,
    by rw [hsearch], SearchClient.new?_of_writesHost hhost _, ?_, hpath, ?_⟩
  · rw [hsearch]
    exact hrequests
  · intro part hpart
    obtain ⟨folders, heq, hnone, hempty⟩ :=
      (Url.exists_searches_iff rfl rfl (SearchClient.slashFree_searchParts index)).mp ⟨part, hpart⟩
    rcases hparts folders heq with h | h
    · exact hnone h
    · exact hempty h

/-- **An accepted alert need not search an index.**  Nothing is left of an index of slashes, an
index of dots leads to the search in all indices, and a question mark ends the path in front of the
search. -/
theorem search_astray :
    Astray "/" "//_search" ∧ Astray ".." "/_search" ∧ Astray "logs?" "/logs" := by
  refine ⟨astray_of_searchParts (by decide +kernel) (by decide +kernel) (by decide +kernel) ?_,
    astray_of_searchParts (by decide +kernel) (by decide +kernel) (by decide +kernel) ?_,
    astray_of_searchParts (by decide +kernel) (by decide +kernel) (by decide +kernel) ?_⟩
  · intro folders h
    have hslash : SearchClient.searchParts "/" = [""] ++ ["_search"] := by decide +kernel
    exact Or.inr (List.append_cancel_right (h.symm.trans hslash))
  · intro folders h
    have hdots : SearchClient.searchParts ".." = [] ++ ["_search"] := by decide +kernel
    exact Or.inl (List.append_cancel_right (h.symm.trans hdots))
  · intro folders h
    have hmark : SearchClient.searchParts "logs?" = [] ++ ["logs"] := by decide +kernel
    have hlast := (List.append_inj' (h.symm.trans hmark) rfl).2
    exact absurd hlast (by decide)

end Lookout
