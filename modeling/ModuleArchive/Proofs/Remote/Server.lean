import ModuleArchive.Proofs.Catalog.Answers
import ModuleArchive.Proofs.Content.Reading
import ModuleArchive.Remote.Catalog

/-!
# Answers of a server

A server answers each address the same way as long as its pages stay the same, and no operation
of a catalog over it changes them. Content that is downloaded is the body of an answer.
-/
namespace ModuleArchive

namespace Remote

lemma receive_eq_ok_iff {reader : Content.Reader} {alloc : Content.Allocator} {url : Url}
    {answer : Except Catalog.Error Delivery} {c : Content} :
    receive reader alloc url answer = .ok c ↔
      ∃ d, answer = .ok d ∧ d.read reader alloc = .ok c := by
  cases answer with
  | error cause => simp [receive]
  | ok d => cases h : d.read reader alloc <;> simp [receive, Except.mapError, h]

namespace Server

/-- Whether bytes are the body of the answer for an address. -/
def Serves (s : Server) (url : Url) (bytes : Bytes) : Prop :=
  ∃ response, s.page? url.print = some response ∧ bytes = response.body

def HasPages (pages : List (String × Response)) (s : Server) : Prop := s.pages = pages

variable {s s' : Server} {pages : List (String × Response)}

lemma serves_congr (h : s.pages = s'.pages) {url : Url} {bytes : Bytes} :
    s.Serves url bytes ↔ s'.Serves url bytes := by
  rw [Serves, Serves, page?, page?, h]

lemma serves_congr_url {url url' : Url} (h : url.print = url'.print) {bytes : Bytes} :
    s.Serves url bytes ↔ s.Serves url' bytes := by
  rw [Serves, Serves, h]

lemma hasPages_download (h : s.HasPages pages) (reader : Content.Reader)
    (alloc : Content.Allocator) (url : Url) : (s.download reader alloc url).2.HasPages pages :=
  h

lemma fst_download (s : Server) (reader : Content.Reader) (alloc : Content.Allocator) (url : Url) :
    (s.download reader alloc url).1 =
      receive reader alloc url ((s.fetch url).1.map Response.delivery) := rfl

lemma bytes_of_read_delivery {reader : Content.Reader} {alloc : Content.Allocator} {r : Response}
    {c : Content} (h : r.delivery.read reader alloc = .ok c) : c.bytes = r.body := by
  have hc : c = ⟨Content.delivered [.data r.body], false⟩ := by
    rw [Delivery.read] at h
    split at h
    · exact (Content.Reader.delivered_of_readSized h).2.1
    · exact (Content.delivered_of_readStream h).2.1
  rw [hc]
  exact (Content.delivered_data r.body).1

/-- What is downloaded is the body of the answer for the address. -/
theorem serves_of_download {reader : Content.Reader} {alloc : Content.Allocator} {url : Url}
    {c : Content} (h : (s.download reader alloc url).1 = .ok c) : s.Serves url c.bytes := by
  rw [fst_download, receive_eq_ok_iff] at h
  obtain ⟨d, hanswer, hread⟩ := h
  cases hpage : (s.fetch url).1 with
  | error cause =>
    rw [hpage] at hanswer
    cases hanswer
  | ok response =>
    rw [hpage] at hanswer
    obtain rfl := Except.ok.inj hanswer
    refine ⟨response, ?_, bytes_of_read_delivery hread⟩
    unfold fetch at hpage
    simp only at hpage
    split at hpage
    · contradiction
    · split at hpage
      · contradiction
      · next found hf =>
        obtain rfl := Except.ok.inj hpage
        exact hf

end Server

/-! ### Archives -/

/-- Going from page to page keeps what asking for each of them keeps. -/
lemma preserves_pagesFrom {ρ α : Type} {fetch : Nat → Action ρ (Page α)} {I : ρ → Prop}
    (h : ∀ number w, I w → I (fetch number w).2) (limit number : Nat) :
    (pagesFrom fetch limit number).Preserves I := by
  induction limit generalizing number with
  | zero => trivial
  | succ limit ih =>
    intro w hw
    refine ⟨h number w hw, ?_⟩
    simp only
    cases (fetch number w).1 with
    | error cause => trivial
    | ok page =>
      apply Listing.preserves_append
      split
      · trivial
      · exact ih _

namespace Archive

open Server (HasPages hasPages_download)

variable (a : Archive) {pages : List (String × Response)}

lemma snd_download (server : Server) (url : Url) :
    (a.download url server).2 = server.log url.print := rfl

/-- Asking for a page leaves a trace in the log, and nothing else. -/
lemma snd_fetchPage (s : Scope) (number : Nat) (server : Server) :
    (a.fetchPage s number server).2 = server.log (a.site.pageUrl s number).print := by
  rw [← snd_download, fetchPage]
  split <;> next heq => exact (congrArg Prod.snd heq).symm

lemma hasPages_fetchPage {server : Server} (h : server.HasPages pages) (s : Scope) (number : Nat) :
    (a.fetchPage s number server).2.HasPages pages := by
  rw [snd_fetchPage]
  exact h

lemma preserves_listing (s : Scope) : (a.listing s).Preserves (HasPages pages) := fun _ h =>
  ⟨h, preserves_pagesFrom (fun number _ h => a.hasPages_fetchPage h s number) _ _⟩

/-- No operation changes what the server answers. -/
theorem preserves_catalog : a.catalog.Preserves (HasPages pages) where
  listing := a.preserves_listing
  group g id server h := by
    have hpage := a.hasPages_fetchPage h (.tracks g id) 1
    change (a.group g id server).2.HasPages pages
    unfold group
    split
    · next heq =>
      rw [heq] at hpage
      exact hpage
    · next heq =>
      rw [heq] at hpage
      exact hpage
  track g id filename server h := (a.preserves_listing (.tracks g id)).find? h _
  content path server h := hasPages_download h a.reader a.alloc _

end Archive

end Remote

end ModuleArchive
