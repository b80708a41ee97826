import PeerConnection.Core.Blocks
import PeerConnection.Sdp.PrintedSections

/-!
# What a printed description says about its media

`ToString` prints the payload types and the SSRC groups of every section, and
it prints the same direction for all of them, no multiplexing of RTCP and one
semantics for every group.  This file recovers from equal texts what is printed,
and changes what is not.
-/

namespace PeerConnection.Sdp

open PeerConnection.Text
open PeerConnection.Blocks

/-! ## The media semantics of a description -/

def payloadTypes (content : ContentInfo) : List ℤ :=
  content.description.codecs.map (·.id)

/-- The groups of the send streams that name an SSRC. -/
def nonemptyGroups (content : ContentInfo) : List SsrcGroup :=
  content.description.sendStreams.flatMap fun stream =>
    stream.ssrcGroups.filter fun group => !group.ssrcs.isEmpty

structure SameMedia (left right : ContentInfo) : Prop where
  direction : left.description.direction = right.description.direction
  rtcpMux : left.description.rtcpMux = right.description.rtcpMux
  payloadTypes : payloadTypes left = payloadTypes right
  groups : nonemptyGroups left = nonemptyGroups right

/-- What a section is printed with. -/
structure SamePrinted (left right : ContentInfo) : Prop where
  payloadTypes : payloadTypes left = payloadTypes right
  ssrcs : (nonemptyGroups left).map (·.ssrcs) = (nonemptyGroups right).map (·.ssrcs)

/-- What is not printed of a section. -/
structure SameUnprinted (left right : ContentInfo) : Prop where
  direction : left.description.direction = right.description.direction
  rtcpMux : left.description.rtcpMux = right.description.rtcpMux
  semantics : (nonemptyGroups left).map (·.semantics) = (nonemptyGroups right).map (·.semantics)

/-- The descriptions agree content by content. -/
def SameSemantics (left right : SessionDescription) : Prop :=
  List.Forall₂ SameMedia left.contents right.contents

/-- Whatever prints like the description means the same. -/
def Determines (api : TransportApi) (desc : SessionDescription) : Prop :=
  ∀ other text, desc.toString api = .ok text → other.toString api = .ok text →
    SameSemantics desc other

/-- No printed value breaks a line. -/
def LineFree (api : TransportApi) (desc : SessionDescription) : Prop :=
  ∀ line ∈ descriptionLines api desc, lf ∉ line

instance decidableLineFree (api : TransportApi) : DecidablePred (LineFree api) := fun desc =>
  inferInstanceAs (Decidable (∀ line ∈ descriptionLines api desc, lf ∉ line))

/-- Printable values do not break a line. -/
theorem Printable.lineFree {api : TransportApi} {desc : SessionDescription}
    (hdesc : Printable desc) (hapi : PrintsAttributes api) : LineFree api desc :=
  fun _ hline => lf_not_mem_of_mem_descriptionLines hapi hdesc hline

theorem groups_eq {left right : List SsrcGroup}
    (hsemantics : left.map (·.semantics) = right.map (·.semantics))
    (hssrcs : left.map (·.ssrcs) = right.map (·.ssrcs)) : left = right := by
  induction left generalizing right with
  | nil =>
      cases right with
      | nil => rfl
      | cons group right => simp at hssrcs
  | cons group left ih =>
      cases right with
      | nil => simp at hssrcs
      | cons other right =>
          obtain ⟨hsame, hlater⟩ := List.cons.inj hsemantics
          obtain ⟨hlist, hlists⟩ := List.cons.inj hssrcs
          obtain rfl : group = other := by
            cases group
            cases other
            simp_all
          rw [ih hlater hlists]

theorem sameMedia_iff {left right : ContentInfo} :
    SameMedia left right ↔ SamePrinted left right ∧ SameUnprinted left right := by
  constructor
  · rintro ⟨hdirection, hmux, htypes, hgroups⟩
    exact ⟨⟨htypes, by rw [hgroups]⟩, ⟨hdirection, hmux, by rw [hgroups]⟩⟩
  · rintro ⟨hprinted, hunprinted⟩
    exact ⟨hunprinted.direction, hunprinted.rtcpMux, hprinted.payloadTypes,
      groups_eq hunprinted.semantics hprinted.ssrcs⟩

/-! ## Numbers in a text -/

/-- The text of a group is that of its SSRCs, whatever its semantics. -/
theorem ssrcGroupText_injective :
    Function.Injective fun ssrcs : List UInt32 =>
      ssrcGroupText { semantics := [], ssrcs := ssrcs } := by
  have hwords : ∀ ssrcs : List UInt32, ∀ word ∈ ssrcs.map fun ssrc => decimalNat ssrc.toNat,
      word ≠ [] ∧ space ∉ word := by
    intro ssrcs word hword
    obtain ⟨ssrc, -, rfl⟩ := List.mem_map.mp hword
    exact ⟨decimalNat_ne_nil _, not_mem_decimalNat (by decide) _⟩
  have hflat : ∀ ssrcs : List UInt32,
      (ssrcs.flatMap fun ssrc => space :: decimalNat ssrc.toNat) =
        (ssrcs.map fun ssrc => decimalNat ssrc.toNat).flatMap (space :: ·) := by
    intro ssrcs
    rw [List.flatMap_map]
  intro left right htext
  have hsame := List.append_cancel_left htext
  rw [hflat, hflat] at hsame
  have hmap := eq_of_flatMap_introduced (hwords left) (hwords right) hsame
  have hinjective : Function.Injective fun ssrc : UInt32 => decimalNat ssrc.toNat :=
    fun _ _ hssrc => UInt32.toNat_inj.mp (decimalNat_injective hssrc)
  exact List.map_injective_iff.mpr hinjective hmap

/-- The `m=` lines of sections with one name. -/
theorem payloadTypes_of_mediaText {left right : ContentInfo} (hname : left.name = right.name)
    (htext : mediaText left = mediaText right) : payloadTypes left = payloadTypes right := by
  rw [mediaText, mediaText, hname] at htext
  have hsame := eq_of_flatMap_introduced (mediaWords left) (mediaWords right)
    (List.append_cancel_left htext)
  have hids := List.append_cancel_left hsame
  have hids' : (payloadTypes left).map decimal = (payloadTypes right).map decimal := by
    simpa [payloadTypes, Function.comp_def] using hids
  exact List.map_injective_iff.mpr decimal_injective hids'

/-! ## The lines of one kind -/

/-- No text that begins with one begins with the other. -/
def Apart (marker front : Bytes) : Prop := ¬ marker <+: front ∧ ¬ front <+: marker

instance decidableApart (marker : Bytes) : DecidablePred (Apart marker) := fun front =>
  inferInstanceAs (Decidable (¬ marker <+: front ∧ ¬ front <+: marker))

theorem Apart.not_begins {marker front line : Bytes} (hapart : Apart marker front)
    (hfront : front <+: line) : ¬ marker <+: line := by
  intro hmarker
  rcases List.prefix_or_prefix_of_prefix hmarker hfront with hshort | hlong
  · exact hapart.1 hshort
  · exact hapart.2 hlong

/-- Every line begins like one of these. -/
def BeginLike (fronts lines : List Bytes) : Prop :=
  ∀ line ∈ lines, ∃ front ∈ fronts, front <+: line

def linesWith (marker : Bytes) (lines : List Bytes) : List Bytes :=
  lines.filter fun line => decide (marker <+: line)

theorem linesWith_append (marker : Bytes) (left right : List Bytes) :
    linesWith marker (left ++ right) = linesWith marker left ++ linesWith marker right :=
  List.filter_append ..

theorem linesWith_cons (marker line : Bytes) (lines : List Bytes) :
    linesWith marker (line :: lines) = linesWith marker [line] ++ linesWith marker lines :=
  linesWith_append marker [line] lines

theorem linesWith_eq_nil {marker : Bytes} {fronts lines : List Bytes}
    (hlines : BeginLike fronts lines) (hfronts : ∀ front ∈ fronts, Apart marker front) :
    linesWith marker lines = [] := by
  refine List.filter_eq_nil_iff.mpr fun line hline => ?_
  obtain ⟨front, hfront, hbegins⟩ := hlines line hline
  rw [decide_eq_true_eq]
  exact (hfronts front hfront).not_begins hbegins

theorem linesWith_singleton {marker front line : Bytes} (hapart : Apart marker front)
    (hfront : front <+: line) : linesWith marker [line] = [] := by
  refine List.filter_eq_nil_iff.mpr fun other hother => ?_
  rw [List.mem_singleton.mp hother, decide_eq_true_eq]
  exact hapart.not_begins hfront

theorem linesWith_eq_self {marker : Bytes} {lines : List Bytes}
    (hlines : ∀ line ∈ lines, marker <+: line) : linesWith marker lines = lines :=
  List.filter_eq_self.mpr fun line hline => decide_eq_true (hlines line hline)

/-! ### The lines of a section -/

/-- Only an `m=` line begins so. -/
def kMediaStart : Bytes := ascii "m"

def kMidAttribute : Bytes := ascii "a=mid:"

def kSsrcGroupAttribute : Bytes := ascii "a=ssrc-group:"

/-- How the lines between the `m=` line and the `a=mid:` line begin. -/
def transportFronts : List Bytes :=
  [ascii "c=", ascii "a=rtcp:", ascii "a=ice-ufrag", ascii "a=ice-pwd", ascii "a=ice-options:",
    ascii "a=fingerprint:", ascii "a=setup:"]

def codecFronts : List Bytes := [ascii "a=rtpmap:", ascii "a=rtcp-fb:", ascii "a=fmtp:"]

/-- How the lines of a section begin after its `m=` line. -/
def attributeFronts : List Bytes :=
  transportFronts ++ [kMidAttribute, ascii "a=sendonly"] ++ codecFronts ++
    [kSsrcGroupAttribute, ascii "a=ssrc:"]

/-- The lines of a section between its `m=` line and its `a=mid:` line. -/
def sectionTransportLines (api : TransportApi) (desc : SessionDescription)
    (content : ContentInfo) : List Bytes :=
  [ascii "c=IN IP4 0.0.0.0", ascii "a=rtcp:9 IN IP4 0.0.0.0"] ++
    match desc.getTransportInfoByName content.name with
    | some td => transportLines api td.description
    | none => []

theorem contentLines_eq (api : TransportApi) (desc : SessionDescription)
    (content : ContentInfo) :
    contentLines api desc content =
      mediaText content :: (sectionTransportLines api desc content ++ mediaLines content) := rfl

theorem BeginLike.append {fronts left right : List Bytes} (hleft : BeginLike fronts left)
    (hright : BeginLike fronts right) : BeginLike fronts (left ++ right) := by
  intro line hline
  rcases List.mem_append.mp hline with hmem | hmem
  · exact hleft line hmem
  · exact hright line hmem

theorem BeginLike.subset {fronts others lines : List Bytes} (hlines : BeginLike fronts lines)
    (hsubset : fronts ⊆ others) : BeginLike others lines := by
  intro line hline
  obtain ⟨front, hfront, hbegins⟩ := hlines line hline
  exact ⟨front, hsubset hfront, hbegins⟩

theorem beginLike_transport (api : TransportApi) (desc : SessionDescription)
    (content : ContentInfo) :
    BeginLike transportFronts (sectionTransportLines api desc content) := by
  have hfixed : ∀ line ∈ [ascii "c=IN IP4 0.0.0.0", ascii "a=rtcp:9 IN IP4 0.0.0.0",
      ascii "a=ice-options:trickle"], ∃ front ∈ transportFronts, front <+: line := by
    decide
  refine BeginLike.append (fun line hline => hfixed line (List.mem_append_left [_] hline)) ?_
  cases desc.getTransportInfoByName content.name with
  | none => exact fun line hline => absurd hline List.not_mem_nil
  | some td =>
      refine BeginLike.append (fun line hline => ?_) ?_
      · simp only [List.mem_cons, List.not_mem_nil, or_false] at hline
        rcases hline with rfl | rfl | rfl
        · exact ⟨ascii "a=ice-ufrag", by simp [transportFronts], List.prefix_append _ _⟩
        · exact ⟨ascii "a=ice-pwd", by simp [transportFronts], List.prefix_append _ _⟩
        · exact hfixed _ (by simp)
      · cases td.description.identityFingerprint with
        | none => exact fun line hline => absurd hline List.not_mem_nil
        | some fp =>
            intro line hline
            simp only [List.mem_cons, List.not_mem_nil, or_false] at hline
            rcases hline with rfl | rfl
            · exact ⟨ascii "a=fingerprint:", by simp [transportFronts], List.prefix_append _ _⟩
            · exact ⟨ascii "a=setup:", by simp [transportFronts], List.prefix_append _ _⟩

theorem beginLike_codecs (type : MediaType) (codecs : List Codec) :
    BeginLike codecFronts (codecs.flatMap (codecLines type)) := by
  intro line hline
  obtain ⟨codec, -, hcodec⟩ := List.mem_flatMap.mp hline
  simp only [codecLines, List.mem_cons, List.mem_append, List.mem_map, List.not_mem_nil,
    or_false] at hcodec
  rcases hcodec with rfl | ⟨param, -, rfl⟩ | rfl
  · exact ⟨ascii "a=rtpmap:", by simp [codecFronts], List.prefix_append _ _⟩
  · exact ⟨ascii "a=rtcp-fb:", by simp [codecFronts], List.prefix_append _ _⟩
  · exact ⟨ascii "a=fmtp:", by simp [codecFronts], List.prefix_append _ _⟩

theorem kSsrcGroupAttribute_begins (group : SsrcGroup) :
    kSsrcGroupAttribute <+: ssrcGroupText group :=
  (show kSsrcGroupAttribute <+: ascii "a=ssrc-group:FID" by decide).trans
    (List.prefix_append _ _)

theorem beginLike_streams (streams : List StreamParams) :
    BeginLike [kSsrcGroupAttribute, ascii "a=ssrc:"] (streams.flatMap streamLines) := by
  intro line hline
  obtain ⟨stream, -, hstream⟩ := List.mem_flatMap.mp hline
  rcases List.mem_append.mp hstream with hgroup | hssrc
  · obtain ⟨group, -, rfl⟩ := List.mem_map.mp hgroup
    exact ⟨kSsrcGroupAttribute, by simp, kSsrcGroupAttribute_begins group⟩
  · obtain ⟨ssrc, -, rfl⟩ := List.mem_map.mp hssrc
    exact ⟨ascii "a=ssrc:", by simp, List.prefix_append _ _⟩

theorem beginLike_attributes (api : TransportApi) (desc : SessionDescription)
    (content : ContentInfo) :
    BeginLike attributeFronts (sectionTransportLines api desc content ++ mediaLines content) := by
  have hfixed : BeginLike attributeFronts [ascii "a=mid:" ++ content.name,
      ascii "a=sendonly"] := by
    intro line hline
    simp only [List.mem_cons, List.not_mem_nil, or_false] at hline
    rcases hline with rfl | rfl
    · exact ⟨kMidAttribute, by simp [attributeFronts], List.prefix_append _ _⟩
    · exact ⟨ascii "a=sendonly", by simp [attributeFronts], List.prefix_rfl⟩
  refine BeginLike.append ?_ (BeginLike.append (BeginLike.append hfixed ?_) ?_)
  · exact (beginLike_transport api desc content).subset (by simp [attributeFronts])
  · exact (beginLike_codecs _ _).subset fun front hfront => by simp [attributeFronts, hfront]
  · exact (beginLike_streams _).subset (by simp [attributeFronts])

theorem linesWith_flatMap {α : Type*} (marker : Bytes) (items : List α)
    (linesOf : α → List Bytes) :
    linesWith marker (items.flatMap linesOf) =
      items.flatMap fun item => linesWith marker (linesOf item) :=
  List.filter_flatMap ..

theorem ssrcGroups_of_streamLines (stream : StreamParams) :
    linesWith kSsrcGroupAttribute (streamLines stream) =
      (stream.ssrcGroups.filter fun group => !group.ssrcs.isEmpty).map ssrcGroupText := by
  have happart : Apart kSsrcGroupAttribute (ascii "a=ssrc:") := by decide
  rw [streamLines, linesWith_append, linesWith_eq_self, linesWith_eq_nil, List.append_nil]
  · intro line hline
    obtain ⟨ssrc, -, rfl⟩ := List.mem_map.mp hline
    exact ⟨_, List.mem_singleton_self _, List.prefix_append _ _⟩
  · simpa using happart
  · intro line hline
    obtain ⟨group, -, rfl⟩ := List.mem_map.mp hline
    exact kSsrcGroupAttribute_begins group

theorem ssrcs_of_streamLines (stream : StreamParams) :
    linesWith (ascii "a=ssrc:") (streamLines stream) = stream.ssrcs.map (ssrcText stream) := by
  have happart : Apart (ascii "a=ssrc:") kSsrcGroupAttribute := by decide
  rw [streamLines, linesWith_append, linesWith_eq_nil, linesWith_eq_self, List.nil_append]
  · intro line hline
    obtain ⟨ssrc, -, rfl⟩ := List.mem_map.mp hline
    exact List.prefix_append _ _
  · intro line hline
    obtain ⟨group, -, rfl⟩ := List.mem_map.mp hline
    exact ⟨_, List.mem_singleton_self _, kSsrcGroupAttribute_begins group⟩
  · simpa using happart

/-- The lines of one kind, part by part. -/
theorem linesWith_contentLines (marker : Bytes) (api : TransportApi) (desc : SessionDescription)
    (content : ContentInfo) :
    linesWith marker (contentLines api desc content) =
      linesWith marker [mediaText content] ++
        (linesWith marker (sectionTransportLines api desc content) ++
          (linesWith marker [ascii "a=mid:" ++ content.name] ++
            (linesWith marker [ascii "a=sendonly"] ++
              (linesWith marker (content.description.codecs.flatMap
                (codecLines content.description.type)) ++
                linesWith marker (content.description.sendStreams.flatMap streamLines))))) := by
  rw [contentLines_eq, linesWith_cons, linesWith_append, mediaLines, linesWith_append,
    linesWith_append, linesWith_cons marker (ascii "a=mid:" ++ content.name), List.append_assoc,
    List.append_assoc]

theorem kMediaStart_begins (content : ContentInfo) : kMediaStart <+: mediaText content :=
  ⟨_, rfl⟩

theorem linesWith_mid (api : TransportApi) (desc : SessionDescription) (content : ContentInfo) :
    linesWith kMidAttribute (contentLines api desc content) = [kMidAttribute ++ content.name] := by
  have htransport := linesWith_eq_nil (beginLike_transport api desc content)
    (by decide : ∀ front ∈ transportFronts, Apart kMidAttribute front)
  have hcodecs := linesWith_eq_nil
    (beginLike_codecs content.description.type content.description.codecs)
    (by decide : ∀ front ∈ codecFronts, Apart kMidAttribute front)
  have hstreams := linesWith_eq_nil (beginLike_streams content.description.sendStreams)
    (by decide :
      ∀ front ∈ [kSsrcGroupAttribute, ascii "a=ssrc:"], Apart kMidAttribute front)
  have hdirection : linesWith kMidAttribute [ascii "a=sendonly"] = [] := by decide
  have hmid : linesWith kMidAttribute [ascii "a=mid:" ++ content.name] =
      [kMidAttribute ++ content.name] :=
    linesWith_eq_self fun line hline => by
      rw [List.mem_singleton.mp hline]
      exact List.prefix_append _ _
  have hmedia := linesWith_singleton (by decide : Apart kMidAttribute kMediaStart)
    (kMediaStart_begins content)
  rw [linesWith_contentLines, hmedia, htransport, hmid, hdirection, hcodecs, hstreams]
  rfl

/-- What the lines of the streams do not begin with. -/
def otherFronts : List Bytes :=
  kMediaStart :: (transportFronts ++ [kMidAttribute, ascii "a=sendonly"] ++ codecFronts)

theorem linesWith_of_apart {marker : Bytes} (hmarker : ∀ front ∈ otherFronts, Apart marker front)
    (api : TransportApi) (desc : SessionDescription) (content : ContentInfo) :
    linesWith marker (contentLines api desc content) =
      linesWith marker (content.description.sendStreams.flatMap streamLines) := by
  have htransport := linesWith_eq_nil (beginLike_transport api desc content)
    fun front hfront => hmarker front (by simp [otherFronts, hfront])
  have hcodecs := linesWith_eq_nil
    (beginLike_codecs content.description.type content.description.codecs)
    fun front hfront => hmarker front (by simp [otherFronts, hfront])
  have hmedia := linesWith_singleton (hmarker _ List.mem_cons_self) (kMediaStart_begins content)
  have hmid : linesWith marker [ascii "a=mid:" ++ content.name] = [] :=
    linesWith_singleton (hmarker kMidAttribute (by simp [otherFronts]))
      (List.prefix_append kMidAttribute _)
  have hdirection := linesWith_singleton (hmarker (ascii "a=sendonly") (by simp [otherFronts]))
    List.prefix_rfl
  rw [linesWith_contentLines, hmedia, htransport, hmid, hdirection, hcodecs]
  rfl

theorem linesWith_ssrcGroup (api : TransportApi) (desc : SessionDescription)
    (content : ContentInfo) :
    linesWith kSsrcGroupAttribute (contentLines api desc content) =
      (nonemptyGroups content).map ssrcGroupText := by
  rw [linesWith_of_apart (by decide), linesWith_flatMap, nonemptyGroups,
    List.map_flatMap]
  exact List.flatMap_congr fun stream _ => ssrcGroups_of_streamLines stream

theorem linesWith_ssrc (api : TransportApi) (desc : SessionDescription) (content : ContentInfo) :
    linesWith (ascii "a=ssrc:") (contentLines api desc content) =
      content.description.sendStreams.flatMap fun stream =>
        stream.ssrcs.map (ssrcText stream) := by
  rw [linesWith_of_apart (by decide), linesWith_flatMap]
  exact List.flatMap_congr fun stream _ => ssrcs_of_streamLines stream

/-! ## Equal texts -/

/-- A section says its name, its payload types and the SSRCs of its groups. -/
theorem samePrinted_of_contentLines {api : TransportApi} {left right : SessionDescription}
    {content other : ContentInfo}
    (hlines : contentLines api left content = contentLines api right other) :
    SamePrinted content other := by
  have hname : content.name = other.name := by
    have hmid := congrArg (linesWith kMidAttribute) hlines
    rw [linesWith_mid, linesWith_mid] at hmid
    exact List.append_cancel_left (List.singleton_inj.mp hmid)
  have hmedia : mediaText content = mediaText other := (List.cons.inj hlines).1
  have hgroups := congrArg (linesWith kSsrcGroupAttribute) hlines
  rw [linesWith_ssrcGroup, linesWith_ssrcGroup] at hgroups
  have htexts : ∀ groups : List SsrcGroup, groups.map ssrcGroupText =
      (groups.map (·.ssrcs)).map fun ssrcs =>
        ssrcGroupText { semantics := [], ssrcs := ssrcs } := by
    intro groups
    rw [List.map_map]
    rfl
  rw [htexts, htexts] at hgroups
  exact ⟨payloadTypes_of_mediaText hname hmedia,
    List.map_injective_iff.mpr ssrcGroupText_injective hgroups⟩

/-- A section begins at its `m=` line. -/
theorem isBlock_contentLines (api : TransportApi) (desc : SessionDescription)
    (content : ContentInfo) :
    IsBlock (kMediaStart <+: ·) (contentLines api desc content) := by
  refine ⟨_, _, contentLines_eq api desc content, kMediaStart_begins content,
    fun line hline => ?_⟩
  obtain ⟨front, hfront, hbegins⟩ := beginLike_attributes api desc content line hline
  have happart : ∀ front ∈ attributeFronts, Apart kMediaStart front := by decide
  exact (happart front hfront).not_begins hbegins

theorem not_media_of_mem_headerLines {desc : SessionDescription} {line : Bytes}
    (hline : line ∈ headerLines desc) : ¬ kMediaStart <+: line := by
  rcases headerLine_cases hline with hplain | ⟨-, rfl⟩
  · rintro ⟨rest, rfl⟩
    exact hplain.kind (Or.inl rfl)
  · have happart : Apart kMediaStart kBundleAttribute := by decide
    exact happart.not_begins (List.prefix_append _ _)

/-- Equal texts have the same header and section by section the same lines. -/
theorem sections_of_toString {api : TransportApi} {left right : SessionDescription} {text : Bytes}
    (hleft : LineFree api left) (hright : LineFree api right)
    (hprint : left.toString api = .ok text) (hother : right.toString api = .ok text) :
    headerLines left = headerLines right ∧
      List.Forall₂ (fun content other => contentLines api left content =
        contentLines api right other) left.contents right.contents := by
  have hnonempty : ∀ desc : SessionDescription, descriptionLines api desc ≠ [] := fun desc => by
    simp [descriptionLines, headerLines]
  have hlines : descriptionLines api left = descriptionLines api right := by
    rw [← sdpFields_terminated (hnonempty left) hleft,
      ← sdpFields_terminated (hnonempty right) hright, ← (toString_eq_ok_iff.mp hprint).2,
      ← (toString_eq_ok_iff.mp hother).2]
  have hblocks : ∀ desc : SessionDescription, ∀ block ∈ desc.contents.map (contentLines api desc),
      IsBlock (kMediaStart <+: ·) block := by
    intro desc block hblock
    obtain ⟨content, -, rfl⟩ := List.mem_map.mp hblock
    exact isBlock_contentLines api desc content
  rw [descriptionLines, descriptionLines, List.flatMap_def, List.flatMap_def] at hlines
  obtain ⟨hheader, hsections⟩ := front_and_blocks_eq
    (fun _ hline => not_media_of_mem_headerLines hline)
    (fun _ hline => not_media_of_mem_headerLines hline) (hblocks left) (hblocks right) hlines
  refine ⟨hheader, ?_⟩
  have hequal : List.Forall₂ (· = ·) (left.contents.map (contentLines api left))
      (right.contents.map (contentLines api right)) := by
    rw [hsections]
    exact List.forall₂_refl _
  rwa [List.forall₂_map_left_iff, List.forall₂_map_right_iff] at hequal

theorem samePrinted_of_toString {api : TransportApi} {left right : SessionDescription}
    {text : Bytes} (hleft : LineFree api left) (hright : LineFree api right)
    (hprint : left.toString api = .ok text) (hother : right.toString api = .ok text) :
    List.Forall₂ SamePrinted left.contents right.contents :=
  (sections_of_toString hleft hright hprint hother).2.imp fun _ _ hlines =>
    samePrinted_of_contentLines hlines

/-- Descriptions with one text mean the same when what is not printed agrees. -/
theorem sameSemantics_iff {left right : SessionDescription}
    (hprinted : List.Forall₂ SamePrinted left.contents right.contents) :
    SameSemantics left right ↔ List.Forall₂ SameUnprinted left.contents right.contents := by
  rw [SameSemantics]
  constructor
  · exact fun hmedia => hmedia.imp fun _ _ hsame => (sameMedia_iff.mp hsame).2
  · exact hprinted.mp fun _ _ hsame hunprinted => sameMedia_iff.mpr ⟨hsame, hunprinted⟩

/-! ## Descriptions whose text does not say what they mean -/

/-- The section with RTCP multiplexed when it was not, and apart when it was. -/
def ContentInfo.otherMux (content : ContentInfo) : ContentInfo :=
  { content with description :=
      { content.description with rtcpMux := !content.description.rtcpMux } }

def SessionDescription.otherMux (desc : SessionDescription) : SessionDescription :=
  { desc with contents := desc.contents.map ContentInfo.otherMux }

theorem contentsText_otherMux (api : TransportApi) (desc : SessionDescription)
    (contents : List ContentInfo) :
    contentsText api desc.otherMux (contents.map ContentInfo.otherMux) =
      contentsText api desc contents := by
  induction contents with
  | nil => rfl
  | cons content contents ih =>
      rw [List.map_cons, contentsText, contentsText, ih]
      rfl

@[simp]
theorem toString_otherMux (api : TransportApi) (desc : SessionDescription) :
    desc.otherMux.toString api = desc.toString api := by
  rw [SessionDescription.toString, SessionDescription.toString]
  change (contentsText api desc.otherMux (desc.contents.map ContentInfo.otherMux) >>= _) = _
  rw [contentsText_otherMux]
  rfl

/-- No `m=` line, no "m" after a line feed. -/
theorem not_media_infix_terminated {lines : List Bytes}
    (hlines : ∀ line ∈ lines, lf ∉ line ∧ ¬ kMediaStart <+: line) :
    ¬ lf :: kMediaStart <:+: terminated lines := by
  induction lines with
  | nil => decide
  | cons line lines ih =>
      have hlater := ih fun other hother => hlines other (List.mem_cons_of_mem _ hother)
      have htext : terminated (line :: lines) = line ++ cr :: (lf :: terminated lines) := by
        simp [crlf]
      rw [htext]
      refine (not_pair_infix_append_cons (by decide) (by decide)).mpr ⟨fun hinside => ?_, ?_⟩
      · exact (hlines line List.mem_cons_self).1 (hinside.subset List.mem_cons_self)
      · intro hinfix
        rcases List.infix_cons_iff.mp hinfix with hstart | hrest
        · -- the line feed ends this line, so that the next one begins with "m"
          obtain ⟨rest, hrest⟩ := hstart
          have hnext : terminated lines = 109 :: rest := (List.cons.inj hrest).2.symm
          cases lines with
          | nil => simp at hnext
          | cons next lines =>
              cases next with
              | nil => simp [crlf, cr] at hnext
              | cons byte next =>
                  obtain ⟨rfl, -⟩ := List.cons.inj hnext
                  exact (hlines (109 :: next) (by simp)).2 ⟨next, rfl⟩
        · exact hlater hrest

theorem media_infix_of_contents {api : TransportApi} {desc : SessionDescription}
    (hcontents : desc.contents ≠ []) :
    lf :: kMediaStart <:+: terminated (descriptionLines api desc) := by
  obtain ⟨content, contents, hcons⟩ := List.exists_cons_of_ne_nil hcontents
  obtain ⟨media, hmedia⟩ := kMediaStart_begins content
  have hheader : ∃ front : List Bytes,
      headerLines desc = front ++ [ascii "a=msid-semantic: WMS"] := ⟨_, rfl⟩
  obtain ⟨front, hfront⟩ := hheader
  rw [descriptionLines, hcons, hfront, List.flatMap_cons, contentLines_eq, ← hmedia]
  exact ⟨terminated front ++ ascii "a=msid-semantic: WMS" ++ [cr], _, by simp [crlf]; rfl⟩

/-- The text of a description with a section never determines its semantics. -/
theorem determines_iff {api : TransportApi} {desc : SessionDescription}
    (hprint : ∀ content ∈ desc.contents, HasParameters content)
    (hfree : desc.contents = [] → LineFree api desc) :
    Determines api desc ↔ desc.contents = [] := by
  have htext := toString_eq_ok_iff.mpr ⟨hprint, @rfl _ (terminated (descriptionLines api desc))⟩
  constructor
  · intro hdetermines
    by_contra hcontents
    obtain ⟨content, contents, hcons⟩ := List.exists_cons_of_ne_nil hcontents
    have hsame : SameSemantics desc desc.otherMux :=
      hdetermines desc.otherMux _ htext (by rw [toString_otherMux]; exact htext)
    rw [SameSemantics, SessionDescription.otherMux, hcons, List.map_cons] at hsame
    obtain ⟨hmedia, -⟩ := List.forall₂_cons.mp hsame
    exact Bool.not_ne_self _ hmedia.rtcpMux.symm
  · intro hcontents other text hdesc hother
    have hnone : other.contents = [] := by
      by_contra hsome
      have hlines : ∀ line ∈ descriptionLines api desc, lf ∉ line ∧ ¬ kMediaStart <+: line := by
        intro line hline
        refine ⟨hfree hcontents line hline, ?_⟩
        rw [descriptionLines, hcontents, List.flatMap_nil, List.append_nil] at hline
        exact not_media_of_mem_headerLines hline
      refine not_media_infix_terminated hlines ?_
      rw [← (toString_eq_ok_iff.mp hdesc).2, (toString_eq_ok_iff.mp hother).2]
      exact media_infix_of_contents hsome
    rw [SameSemantics, hcontents, hnone]
    exact List.Forall₂.nil

end PeerConnection.Sdp
