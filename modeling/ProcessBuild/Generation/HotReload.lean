/-
The marker of a generated crate for hot reload: its id is the digest of the process models, in the order of their ids,
so it changes with them.
-/
import ProcessBuild.Generation.Artifact
import ProcessBuild.Digest.Sha256
import ProcessBuild.Process.Codec

namespace ProcessBuild.Generation

open Source

/-- the source file of the marker -/
def hotReloadPath : String := "hot_reload_support.rs"

/-- models in the order of their ids; models of one id keep their order -/
def modelsById (models : List ProcessModel) : List ProcessModel := models.mergeSort fun a b => a.id ≤ b.id

def modelBytes (models : List ProcessModel) : List UInt8 :=
  (modelsById models).flatMap fun m => Sha256.bytesOf m.toJson.compact

def hotReloadTokens (id : String) : List Token :=
  Token.docLine " Marker whose id changes with the process models." ++
    [Token.word "pub", .word "struct", .word "HotReloadSupport", .mark ';', .word "impl", .word "HotReloadSupport",
      .braces (Token.docLine " Digest of the process models this crate was generated from." ++
        Token.word "pub" :: Translation.Program.stringConstant "ID" id)]

def hotReloadSource (models : List ProcessModel) : String :=
  Source.text (hotReloadTokens (Sha256.digest (modelBytes models)))

end ProcessBuild.Generation
