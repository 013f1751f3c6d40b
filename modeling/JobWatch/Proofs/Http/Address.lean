import JobWatch.Http.Client
import JobWatch.Proofs.Url.Parser

/-!
# The address of a job

A job id is put into a path as it is, and the path goes after the base address before the whole is
read as a URL. So an id can end its segment, the path or even the directory it stands in. It is one
segment and stands for itself there exactly if it is plain (`Plain`), and among plain ids no two jobs
and no two endpoints share a path (`plain_jobs_kept_apart`). Any other id may lead to another job
(`dotted_id_addresses_other_job`).
-/

namespace JobWatch

open Text Url

namespace Endpoint

def segments (e : Endpoint) : List (List Char) :=
  match e with
  | status => ["status".toList]
  | logStream => ["logs".toList, "stream".toList]
  | logs => ["logs".toList]
  | previewCheck => ["preview-check".toList]
  | resume => ["resume".toList]

/-- An endpoint is told by what follows the job in its path. -/
theorem segments_injective {e e' : Endpoint} (h : e.segments = e'.segments) : e = e' := by
  revert h
  cases e <;> cases e' <;> decide

theorem settled_segments (e : Endpoint) : ∀ q ∈ e.segments, Settled q := by
  cases e <;> decide

/-- The end of an endpoint's path is a slash and its segments; none of its characters is dropped or
ends the path. -/
theorem suffix_eq (e : Endpoint) : ∃ rest, e.suffix.toList = '/' :: rest ∧
    trimEnd (· ≤ ' ') rest = rest ∧ rest.all (fun c ↦ counts c && !endsPath c) ∧
    slashParts true rest = e.segments := by
  cases e <;> exact ⟨_, rfl, by decide, by decide, by decide⟩

theorem segments_ne_nil (e : Endpoint) : e.segments ≠ [] := by
  cases e <;> decide

theorem toList_path (e : Endpoint) (job : String) : (e.path job).toList =
    '/' :: ("jobs".toList ++ '/' :: (job.toList ++ e.suffix.toList)) := by
  simp [path]

end Endpoint

namespace Http

/-- The URL is the one of a job's endpoint below a base address: its path is the segments of the base
address, `jobs`, one segment that stands for the id and the segments of the endpoint; its query is
the given fields, and it has no fragment. -/
structure Addresses (root : Url) (e : Endpoint) (job : String) (fields : List (String × String))
    (u : Url) : Prop where
  path : ∃ seg, u.path = .segments (root.directory.reverse ++ "jobs".toList :: seg :: e.segments) ∧
    '/' ∉ seg ∧ percentDecode seg = Utf8.encode job.toList
  query : u.query = if fields.isEmpty then none else some (formText fields)
  fragment : u.fragment = none

/-- A job id that is one segment of a path and stands for itself there. -/
structure Plain (job : List Char) : Prop where
  /-- Nothing in it ends a segment or the path, or does not count in a URL. -/
  noBreak : ∀ c ∈ job, c ∉ ['/', '\\', '?', '#', '\t', '\n', '\x0d']
  noOctet : ¬ HasOctet job
  notDots : job ≠ ['.'] ∧ job ≠ ['.', '.']

section Address

variable {c : Client} {root : Url}

theorem Plain.not_isStep {job : List Char} (h : Plain job) : ¬ IsStep job := fun hstep ↦
  ((isStep_iff h.noOctet).1 hstep).elim h.notDots.1 h.notDots.2

theorem breaks_iff {c : Char} : c ∉ ['/', '\\', '?', '#', '\t', '\n', '\x0d'] ↔
    counts c ∧ isSlash true c = false ∧ endsPath c = false := by
  simp only [List.mem_cons, List.not_mem_nil, or_false, counts, isSlash, endsPath, Bool.and_eq_true,
    decide_eq_true_eq, Bool.or_eq_false_iff, beq_eq_false_iff_ne, Bool.true_and]
  tauto

/-- What makes a job plain, as the reading of a URL asks for it. -/
theorem plain_iff {job : List Char} : Plain job ↔
    (∀ c ∈ job.filter counts, endsPath c = false) ∧
      (∀ c ∈ job, counts c ∧ isSlash true c = false) ∧ ¬ HasOctet job ∧ ¬ IsStep job := by
  constructor
  · intro h
    have hbreaks (c : Char) (hc : c ∈ job) := breaks_iff.1 (h.noBreak c hc)
    exact ⟨fun c hc ↦ (hbreaks c (List.mem_of_mem_filter hc)).2.2,
      fun c hc ↦ ⟨(hbreaks c hc).1, (hbreaks c hc).2.1⟩, h.noOctet, h.not_isStep⟩
  · rintro ⟨hends, hall, hoctet, hstep⟩
    refine ⟨fun c hc ↦ breaks_iff.2 ?_, hoctet, not_or.1 ((isStep_iff hoctet).not.1 hstep)⟩
    obtain ⟨hcounts, hslash⟩ := hall c hc
    exact ⟨hcounts, hslash, hends c (List.mem_filter.2 ⟨hc, hcounts⟩)⟩

theorem url?_eq_ok_iff {path : String} {u : Url} :
    c.url? path = .ok u ↔ parse? (c.address path) = some u := by
  rw [Client.url?]
  cases parse? (c.address path) <;> simp

theorem url?_ofList_iff {t : List Char} {u : Url} : c.url? (String.ofList ('/' :: t)) = .ok u ↔
    parse? (String.ofList (trimEnd (· == '/') c.base.toList ++ '/' :: t)) = some u := by
  rw [url?_eq_ok_iff, Client.address, ← String.ofList_append]

/-- The text after the slash of a base address that names an endpoint of a job, as far as it
counts. -/
def jobPart (job rest : List Char) : List Char :=
  "jobs".toList ++ '/' :: (job.filter counts ++ '/' :: rest)

/-- The URL of a job's endpoint is the base address with the path at its end. -/
theorem url?_path (hroot : c.url? "/" = .ok root) (hweb : root.IsWeb) :
    ∃ front, (∀ c ∈ front.head?, isSlash true c ∨ endsPath c) ∧
      root = withPath root [] (front ++ ['/']) ∧
      ∀ (e : Endpoint) (job : String), ∃ rest, slashParts true rest = e.segments ∧
        (∀ c ∈ rest, endsPath c = false) ∧
        c.url? (e.path job) = .ok (withPath root [] (front ++ '/' :: jobPart job.toList rest)) := by
  have hslash : "/" = String.ofList ['/'] := rfl
  have hparse := url?_ofList_iff.1 (hslash ▸ hroot)
  obtain ⟨front, hhead, happend⟩ := parse?_append hweb hparse
  refine ⟨front, hhead, Option.some.inj (hparse.symm.trans (happend [])), fun e job ↦ ?_⟩
  obtain ⟨rest, hsuffix, htrim, hrest, hparts⟩ := e.suffix_eq
  have hrest (c : Char) (hc : c ∈ rest) : counts c ∧ endsPath c = false := by
    simpa using List.all_eq_true.1 hrest c hc
  have hpath : e.path job =
      String.ofList ('/' :: ("jobs".toList ++ '/' :: (job.toList ++ '/' :: rest))) := by
    rw [← hsuffix, ← e.toList_path, String.ofList_toList]
  have hfilter : (trimEnd (· ≤ ' ') ("jobs".toList ++ '/' :: (job.toList ++ '/' :: rest))).filter
      counts = jobPart job.toList rest := by
    rw [trimEnd_append_stop (by decide), trimEnd_append_stop (by decide), htrim, List.filter_append,
      List.filter_cons_of_pos (by decide), List.filter_append, List.filter_cons_of_pos (by decide),
      List.filter_eq_self.2 fun c hc ↦ (hrest c hc).1]
    rfl
  refine ⟨rest, hparts, fun c hc ↦ (hrest c hc).2, ?_⟩
  rw [hpath, url?_ofList_iff, happend, hfilter]

section Below

variable {front job rest : List Char} {e : Endpoint}

theorem forall_mem_jobPart (hrest : ∀ c ∈ rest, endsPath c = false) :
    (∀ c ∈ jobPart job rest, endsPath c = false) ↔
      ∀ c ∈ job.filter counts, endsPath c = false := by
  have hjobs : ∀ c ∈ "jobs".toList, endsPath c = false := fun _ ↦ eq_false_of_all (by decide)
  simp only [jobPart, List.forall_mem_append, List.forall_mem_cons]
  exact ⟨fun h ↦ h.2.2.1, fun h ↦ ⟨hjobs, rfl, h, rfl, hrest⟩⟩

theorem isBare_front : (withPath root [] (front ++ ['/'])).IsBare ↔
    ∀ c ∈ front, endsPath c = false := by
  rw [isBare_withPath_iff, List.forall_mem_append]
  exact and_iff_left (List.forall_mem_singleton.2 rfl)

/-- The URL of an endpoint has neither query nor fragment exactly if neither its base nor its job
ends the path. -/
theorem isBare_below (hrest : ∀ c ∈ rest, endsPath c = false) :
    (withPath root [] (front ++ '/' :: jobPart job rest)).IsBare ↔
      (∀ c ∈ front, endsPath c = false) ∧ ∀ c ∈ job.filter counts, endsPath c = false := by
  rw [isBare_withPath_iff, List.forall_mem_append, List.forall_mem_cons, forall_mem_jobPart hrest]
  exact and_congr_right fun _ ↦ and_iff_right rfl

/-- Where nothing ends the path, the id is one segment and stands for itself exactly if all of it
counts, it has no slash, it shows no octet after a percent sign and it is no step to a directory. -/
theorem segment_below (hweb : root.IsWeb) (hfront : ∀ c ∈ front, endsPath c = false)
    (hhead : ∀ c ∈ front.head?, isSlash true c ∨ endsPath c)
    (hjob : ∀ c ∈ job.filter counts, endsPath c = false)
    (hrest : ∀ c ∈ rest, endsPath c = false) (hparts : slashParts true rest = e.segments) :
    (∃ seg, (withPath root [] (front ++ '/' :: jobPart job rest)).path =
        .segments ((directoryOf front).reverse ++ "jobs".toList :: seg :: e.segments) ∧
      '/' ∉ seg ∧ percentDecode seg = Utf8.encode job) ↔
    (∀ c ∈ job, counts c ∧ isSlash true c = false) ∧ ¬ HasOctet job ∧ ¬ IsStep job := by
  have hpath := withPath_segment_append hweb.isKnown hfront hhead (by decide) (by decide)
    ((forall_mem_jobPart hrest).2 hjob)
  rw [slashParts_append, hparts] at hpath
  rw [jobPart, hpath, ← @resolve_segment_iff ("jobs".toList :: directoryOf front) _ _ _
    e.segments_ne_nil e.settled_segments]
  simp

end Below

/-- The URL of a job's endpoint is its own exactly if the base address has only a path and the id is
plain. -/
theorem addresses_iff (hroot : c.url? "/" = .ok root) (hweb : root.IsWeb) (e : Endpoint)
    (job : String) : ∃ u, c.url? (e.path job) = .ok u ∧
      (Addresses root e job [] u ↔ root.IsBare ∧ Plain job.toList) := by
  obtain ⟨front, hhead, heq, hurl⟩ := url?_path hroot hweb
  obtain ⟨rest, hparts, hrest, hurl⟩ := hurl e job
  have hbare : root.IsBare ↔ ∀ c ∈ front, endsPath c = false := by
    rw [heq, isBare_front]
  have hdirectory (hfront : ∀ c ∈ front, endsPath c = false) :
      root.directory = directoryOf front := by
    rw [heq]
    exact directory_withPath hweb.isKnown hfront hhead
  refine ⟨_, hurl, ?_⟩
  rw [hbare, plain_iff]
  constructor
  · rintro ⟨hpath, hquery, hfragment⟩
    obtain ⟨hfront, hjob⟩ := (isBare_below hrest).1 ⟨hquery, hfragment⟩
    rw [hdirectory hfront, segment_below hweb hfront hhead hjob hrest hparts] at hpath
    exact ⟨hfront, hjob, hpath⟩
  · rintro ⟨hfront, hjob, hplain⟩
    have hends : (withPath root [] (front ++ '/' :: jobPart job.toList rest)).IsBare :=
      (isBare_below hrest).2 ⟨hfront, hjob⟩
    refine ⟨?_, hends.1, hends.2⟩
    rw [hdirectory hfront]
    exact (segment_below hweb hfront hhead hjob hrest hparts).2 hplain

/-- A request goes out to the URL of its path, without a user and with the parameters in the query.
-/
theorem url_of_prepare {r : Request} {accept : String} {out : Outgoing} {u : Url}
    (hu : c.url? r.path = .ok u) (hout : c.prepare r accept = .ok out) :
    out.url = u.withoutCredentials.addFields r.query := by
  rw [Client.prepare, hu] at hout
  simp only [bind, Except.bind] at hout
  split at hout
  · split at hout
    · exact (congrArg Outgoing.url (Except.ok.inj hout)).symm
    · exact nomatch hout
  · exact nomatch hout

/-- The fields of a request are the query of its URL where the path brings none. -/
theorem Addresses.addFields {e : Endpoint} {job : String} {u : Url}
    (h : Addresses root e job [] u) (fields : List (String × String)) :
    Addresses root e job fields (u.withoutCredentials.addFields fields) := by
  rw [Url.addFields]
  cases fields with
  | nil => exact ⟨h.path, h.query, h.fragment⟩
  | cons field fields =>
    have hquery : u.query = none := h.query
    refine ⟨h.path, ?_, h.fragment⟩
    simp [withoutCredentials, hquery]

/-- Two jobs' endpoints that share a path are the same endpoint of the same job. -/
theorem Addresses.unique {e e' : Endpoint} {job job' : String}
    {fields fields' : List (String × String)} {u u' : Url} (h : Addresses root e job fields u)
    (h' : Addresses root e' job' fields' u') (hpath : u.path = u'.path) : e = e' ∧ job = job' := by
  -- the segments before the id are the same for both, so the ids' segments stand at one place
  obtain ⟨seg, hseg, -, hdecode⟩ := h.path
  obtain ⟨seg', hseg', -, hdecode'⟩ := h'.path
  rw [hseg, hseg'] at hpath
  have hsegments := List.append_cancel_left (Path.segments.inj hpath)
  obtain ⟨rfl, hsuffix⟩ := List.cons_eq_cons.1 (List.cons_eq_cons.1 hsegments).2
  exact ⟨Endpoint.segments_injective hsuffix,
    String.toList_inj.1 (encode_injective (hdecode.symm.trans hdecode'))⟩

end Address

/-- A job id is put into a path as it is. Below a base address that has only a path, the URL of each
of its endpoints is its own exactly if the id is plain; then the requests for two jobs or two
endpoints never share a path. -/
theorem plain_jobs_kept_apart {c : Client} {root : Url} (hroot : c.url? "/" = .ok root)
    (hweb : root.IsWeb) :
    (∀ (e : Endpoint) (job : String), ∃ u, c.url? (e.path job) = .ok u ∧
      (Addresses root e job [] u ↔ root.IsBare ∧ Plain job.toList)) ∧
    (root.IsBare →
      (∀ (e : Endpoint) (job : String) (fields : List (String × String)) (accept : String)
        (out : Outgoing), Plain job.toList →
          c.prepare { Request.ofEndpoint e job with query := fields } accept = .ok out →
          Addresses root e job fields out.url) ∧
      ∀ (e e' : Endpoint) (job job' : String) (fields fields' : List (String × String))
        (accept accept' : String) (out out' : Outgoing), Plain job.toList → Plain job'.toList →
          c.prepare { Request.ofEndpoint e job with query := fields } accept = .ok out →
          c.prepare { Request.ofEndpoint e' job' with query := fields' } accept' = .ok out' →
          out.url.path = out'.url.path → e = e' ∧ job = job') := by
  have hsent (hbare : root.IsBare) (e : Endpoint) (job : String)
      (fields : List (String × String)) (accept : String) (out : Outgoing)
      (hjob : Plain job.toList)
      (hout : c.prepare { Request.ofEndpoint e job with query := fields } accept = .ok out) :
      Addresses root e job fields out.url := by
    obtain ⟨u, hu, hiff⟩ := addresses_iff hroot hweb e job
    have hurl := url_of_prepare (r := { Request.ofEndpoint e job with query := fields }) hu hout
    exact hurl ▸ (hiff.2 ⟨hbare, hjob⟩).addFields fields
  refine ⟨addresses_iff hroot hweb, fun hbare ↦ ⟨hsent hbare, ?_⟩⟩
  intro e e' job job' fields fields' accept accept' out out' hjob hjob' hout hout' hpath
  exact (hsent hbare e job fields accept out hjob hout).unique
    (hsent hbare e' job' fields' accept' out' hjob' hout') hpath

theorem exists_eq_ok {x : Except ApiError Outgoing} (h : x.isOk) : ∃ out, x = .ok out := by
  cases x with
  | ok out => exact ⟨out, rfl⟩
  | error e => exact nomatch h

/-- An id with a blank is encoded and stays one segment. -/
theorem blank_id_addressed :
    let c : Client := ⟨"http://h/api/", none, none⟩
    ∃ root out out', c.url? "/" = .ok root ∧ root.IsWeb ∧ root.IsBare ∧
      c.prepare { Request.ofEndpoint .logs "a b" with query := [("limit", "5")] } anyKind =
        .ok out ∧
      c.prepare { Request.ofEndpoint .status "c" with query := [] } anyKind = .ok out' ∧
      Addresses root .logs "a b" [("limit", "5")] out.url ∧ out.url.path ≠ out'.url.path := by
  have hroot : (⟨"http://h/api/", none, none⟩ : Client).url? "/" = .ok
      ⟨"http".toList, [], [], some (.domain ['h']), none, .segments ["api".toList, []], none,
        none⟩ := url?_eq_ok_iff.2 (by decide +kernel)
  have hblank : Plain "a b".toList :=
    ⟨by simp, percentDecode_eq_encode_iff.1 (by decide), by decide⟩
  have hletter : Plain "c".toList :=
    ⟨by simp, percentDecode_eq_encode_iff.1 (by decide), by decide⟩
  obtain ⟨out, hout⟩ := exists_eq_ok (x := Client.prepare ⟨"http://h/api/", none, none⟩
    { Request.ofEndpoint .logs "a b" with query := [("limit", "5")] } anyKind) (by decide +kernel)
  obtain ⟨out', hout'⟩ := exists_eq_ok (x := Client.prepare ⟨"http://h/api/", none, none⟩
    { Request.ofEndpoint .status "c" with query := [] } anyKind) (by decide +kernel)
  obtain ⟨haddress, happart⟩ := (plain_jobs_kept_apart hroot (.inl rfl)).2 ⟨rfl, rfl⟩
  refine ⟨_, out, out', hroot, .inl rfl, ⟨rfl, rfl⟩, hout, hout',
    haddress .logs "a b" [("limit", "5")] anyKind out hblank hout, fun hpath ↦ ?_⟩
  have hjob := (happart .logs .status "a b" "c" [("limit", "5")] [] anyKind anyKind out out' hblank
    hletter hout hout' hpath).2
  exact absurd hjob (by decide)

/-- Dots and slashes in an id lead to another job. -/
theorem dotted_id_addresses_other_job :
    let c : Client := ⟨"http://h", none, none⟩
    ∃ root u, c.url? "/" = .ok root ∧ root.IsWeb ∧ root.IsBare ∧
      c.url? (Endpoint.status.path "a/../b") = .ok u ∧
      c.url? (Endpoint.status.path "b") = .ok u ∧ ¬ Addresses root .status "a/../b" [] u := by
  refine ⟨⟨"http".toList, [], [], some (.domain ['h']), none, .segments [[]], none, none⟩,
    ⟨"http".toList, [], [], some (.domain ['h']), none,
      .segments ["jobs".toList, ['b'], "status".toList], none, none⟩,
    url?_eq_ok_iff.2 (by decide +kernel), .inl rfl, ⟨rfl, rfl⟩,
    url?_eq_ok_iff.2 (by decide +kernel), url?_eq_ok_iff.2 (by decide +kernel), fun h ↦ ?_⟩
  obtain ⟨seg, hseg, -, hdecode⟩ := h.path
  have hb : ['b'] = seg :=
    (List.cons_eq_cons.1 (List.cons_eq_cons.1 (Path.segments.inj hseg)).2).1
  rw [← hb] at hdecode
  exact absurd hdecode (by decide)

end Http

end JobWatch
