import ArchiveSearch.Filter.ContentType

namespace ArchiveSearch.ContentType

set_option autoImplicit false

def vocabulary : ContentType → List String
  | .alumni =>
      ["alumni association", "class reunion", "distinguished alumni", "graduates by year",
        "notable alumni"]
  | .publications =>
      ["case studies", "faculty publications", "journal articles", "law review", "legal briefs"]
  | .photos => ["campus events", "class photos", "commencement", "historic photos"]
  | .faculty => ["adjunct faculty", "emeritus faculty", "faculty publications", "professors"]

end ArchiveSearch.ContentType
