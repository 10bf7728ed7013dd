import GuestStorage.Proofs.Loader.Headers

namespace GuestStorage.Loader

inductive Call
  | headers
  | part (name : String)
  | romFs
  | program
  deriving DecidableEq, Repr

inductive Answer
  | headers (result : Except LoaderError Unit)
  | part (result : Except LoaderError Bytes)
  | romFs (result : Except LoaderError RomFsImage)
  | program (result : Except LoaderError ProgramImage)

def answer (loader : Loader) (medium : Medium) : Call → Loader × Answer
  | .headers => (loader.loadHeaders medium).map id .headers
  | .part name => (loader.loadSection medium name).map id .part
  | .romFs => (loader.readRomFs medium).map id .romFs
  | .program => (loader.load medium).map id .program

def answers (loader : Loader) (medium : Medium) : List Call → List Answer
  | [] => []
  | call :: rest =>
    let (next, answer) := loader.answer medium call
    answer :: answers next medium rest

def after (loader : Loader) (medium : Medium) : List Call → Loader
  | [] => loader
  | call :: rest => (loader.answer medium call).1.after medium rest

theorem headersLoaded_of_loadHeaders {loader loaded : Loader} {medium : Medium}
    (unloaded : loader.headersLoaded = false)
    (loads : loader.loadHeaders medium = (loaded, .ok ())) : loaded.state = .headersLoaded := by
  obtain ⟨headers, -, rfl⟩ := read_of_loadHeaders unloaded loads
  rfl

theorem afterHeaders_of_loadHeaders {α : Type} {loader loaded : Loader} {medium : Medium}
    (unloaded : loader.headersLoaded = false)
    (loads : loader.loadHeaders medium = (loaded, .ok ()))
    (ask : Loader → Except LoaderError α) :
    loader.afterHeaders medium ask = loaded.afterHeaders medium ask := by
  have ready : loaded.headersLoaded = true := by
    simp only [headersLoaded, headersLoaded_of_loadHeaders unloaded loads]
    rfl
  rw [afterHeaders_of_loaded ready]
  simp only [afterHeaders, loads]

theorem answer_of_loadHeaders {loader loaded : Loader} {medium : Medium}
    (unloaded : loader.headersLoaded = false)
    (loads : loader.loadHeaders medium = (loaded, .ok ())) (call : Call) :
    loader.answer medium call = loaded.answer medium call := by
  have state := headersLoaded_of_loadHeaders unloaded loads
  have after {α : Type} (ask : Loader → Except LoaderError α) :=
    afterHeaders_of_loadHeaders unloaded loads ask
  cases call with
  | headers =>
      have again : loaded.loadHeaders medium = (loaded, .ok ()) := by
        simp [loadHeaders, headersLoaded, state]
      simp only [answer, loads, again]
  | part name => simp only [answer, loadSection, after]
  | romFs => simp only [answer, readRomFs, after]
  | program =>
      have before : loader.state ≠ .loaded := by
        intro loadedBefore
        simp [headersLoaded, loadedBefore] at unloaded
      have fresh : loaded.state ≠ .loaded := by
        rw [state]
        decide
      simp only [answer, load, if_neg before, if_neg fresh, after]

theorem answers_of_loadHeaders {loader loaded : Loader} {medium : Medium}
    (unloaded : loader.headersLoaded = false)
    (loads : loader.loadHeaders medium = (loaded, .ok ())) (calls : List Call) :
    loader.answers medium calls = loaded.answers medium calls := by
  cases calls with
  | nil => rfl
  | cons call rest => simp only [answers, answer_of_loadHeaders unloaded loads call]

end GuestStorage.Loader
