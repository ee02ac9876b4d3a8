import RoleOperator.Manifest

/-!
# Manifests on standard output

Prints the manifests of the role kinds as one stream of documents.
-/

def main : IO Unit := do
  for manifest in RoleOperator.Manifest.all do
    IO.print ("---\n" ++ manifest)
