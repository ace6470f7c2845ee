import FancyLife.Lib.MainLoop
import FancyLife.Recommendations
import FancyLife.Accounts
import FancyLife.DataLoading
import FancyLife.ListScreens
import FancyLife.ImageView
import FancyLife.ShopInfoScreen
import FancyLife.PersistenceManager
import FancyLife.SearchVC
import FancyLife.SearchTags
import FancyLife.SearchViews
import FancyLife.SearchResults
import FancyLife.Lib.Firsts
import FancyLife.SearchHistory
import FancyLife.AccountVC
import FancyLife.FLHeaderSV
import FancyLife.Lib.SortedBy
import FancyLife.ShopHeaderSV
import FancyLife.ShopVC
import FancyLife.UserDocuments
import FancyLife.FilterBar
import FancyLife.Distances
import FancyLife.Decoding
import FancyLife.Fetchers
import FancyLife.InvalidDocuments
import FancyLife.CategoryShops
import FancyLife.FLAdvertVC
import FancyLife.ShopInfoCells
import FancyLife.AccountRequests
import FancyLife.ResultCells
import FancyLife.HomeLocation
import FancyLife.ImageDownloads
import FancyLife.ShopInfoLoading
import FancyLife.StringExt
import FancyLife.ListConsumers
import FancyLife.Lib.Simulation
import FancyLife.Navigation
import FancyLife.WaysOut
import FancyLife.ImageViews
import FancyLife.FetchAgreement
import FancyLife.HomeLists
import FancyLife.RowTaps
import FancyLife.SearchedHistory
import FancyLife.SignUps
import FancyLife.ReviewCell
import FancyLife.Lib.ReusePool
import FancyLife.ListButtons
import FancyLife.Lib.Decimal
import FancyLife.PriceTexts
import FancyLife.SearchPages
import FancyLife.ShopListLocations
