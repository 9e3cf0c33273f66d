/-
  File:      ModalRs/App.lean
  Subject:   GPU strings: "type" or "type:count".
-/
import ModalRs.Error
import ModalRs.Rust.Parse
import ModalRs.Rust.Unicode

namespace ModalRs

open ModalRs.Rust

/-- `GpuConfig`, parsed from a GPU string. -/
structure GpuConfig where
  gpuType : String
  count : UInt32
  deriving DecidableEq

/-- `str::to_uppercase`. -/
def upper (s : List Char) : String := String.ofList (toUppercase s)

/-- Parse a GPU configuration string into a GpuConfig. -/
def parseGpuConfig (gpu : String) : Except ModalError GpuConfig :=
  if gpu = "" then .ok ⟨"", 0⟩
  else if ':' ∈ gpu.toList then
    let typePart := gpu.toList.takeWhile (· ≠ ':')
    let countStr := (gpu.toList.dropWhile (· ≠ ':')).drop 1
    let invalid := ModalError.invalid ("invalid GPU count: " ++ String.ofList countStr ++
      ", value must be a positive integer")
    match parseU64 countStr with
    | .error _ => .error invalid
    | .ok parsedCount =>
        if parsedCount < 1 then .error invalid
        else .ok ⟨upper typePart, parsedCount.toUInt32⟩
  else .ok ⟨upper gpu.toList, 1⟩

end ModalRs
