import RegisterMap.Model.Builder
import RegisterMap.Emit

/-!
From a header to definitions: the header is scanned, its declarations build a register
block with the configured overrides, and the block is written in a dialect. A header that
cannot be scanned to its end gives the scan error and no block. The notes of the scan and
of the builder are kept in the order of the lines they concern.
-/

namespace RegisterMap

structure Config where
  name : Bytes
  stem : Bytes
  doc : Bytes
  overrides : Overrides := .empty
  dialect : Dialect := .default
  cases : Ident.Cases := .standard

structure Logged (α : Type) where
  result : α
  log : List String

def feed (acc : Builder × List String) : Header.Finding → Builder × List String
  | .event e => let r := acc.1.handle e; (r.1, r.2.reverse ++ acc.2)
  | .note t => (acc.1, t :: acc.2)

def build (text : Bytes) (cfg : Config) : Logged (Except Header.ScanError Block) :=
  let s := Header.scan text
  let r := s.findings.foldl feed (Builder.startBy cfg.cases cfg.name cfg.stem cfg.overrides, [])
  { result := match s.error with
      | some e => .error e
      | none => .ok (r.1.finish cfg.doc),
    log := r.2.reverse }

def generate (text : Bytes) (cfg : Config) : Logged (Except Header.ScanError Bytes) :=
  let b := build text cfg
  { result := b.result.map cfg.dialect.render, log := b.log }

end RegisterMap
