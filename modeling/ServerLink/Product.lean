namespace ServerLink.Product

def version : String := "0.4.0"

def name : String := "JimpleLSP"

def language : String := "jimple"

def page : String := "https://github.com/swissiety/JimpleLSP"

def reports : String := page ++ "/issues"

def userAgent : String := "jimple-lsp/" ++ version

/-- The name of the server's archive where none is configured. -/
def serverArtifact : String := "jimplelsp-" ++ version ++ ".jar"

end ServerLink.Product
